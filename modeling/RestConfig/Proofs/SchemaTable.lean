import Mathlib
import RestConfig.Proofs.RoundTrip

/-!
# Schemas as ordered tables

A schema keeps one key per name, in the order the names first came. Extending it by a
sequence of keys appends the names it did not hold, each at its first occurrence, and holds
under every name the last key of that name in the sequence, or else the key it held
before. Hence extending twice is extending once by both sequences, the number of keys is
the number of distinct names, and declaring a key under a name the schema holds leaves
its names as they were.

Main statement: `Schema.extend_ordered_table`.
-/

namespace RestConfig

theorem Declaration.name_of_toKey {d : Declaration} {room : Nat} {k : Key}
    (h : d.toKey room = .ok k) : d.name = .str k.name := by
  rcases d with ⟨name, kind, default, importance, doc, constraint⟩
  cases name <;> simp [Declaration.toKey] at h
  split at h
  · simp at h
  cases hk : Kind.ofValue? kind <;> simp [hk] at h
  cases hi : Importance.ofValue? importance <;> simp [hi] at h
  split at h
  · cases h
    rfl
  · obtain ⟨s', -, h⟩ := Except.bind_eq_ok_iff.mp h
    cases constraint with
    | none =>
      cases h
      rfl
    | some c =>
      obtain ⟨u, -, h⟩ := Except.bind_eq_ok_iff.mp h
      cases h
      rfl

theorem eraseDups_of_nodup {α : Type} [BEq α] [LawfulBEq α] :
    ∀ {l : List α}, l.Nodup → l.eraseDups = l
  | [], _ => List.eraseDups_nil
  | a :: l, nd => by
    rw [List.eraseDups_cons, List.filter_eq_self.mpr, eraseDups_of_nodup (List.nodup_cons.mp nd).2]
    intro b mem
    have : b ≠ a := fun same => (List.nodup_cons.mp nd).1 (same ▸ mem)
    simpa using this

namespace Schema

theorem names_insert (s : Schema) (k : Key) :
    (s.insert k).names = if k.name ∈ s.names then s.names else s.names ++ [k.name] := by
  by_cases present : k.name ∈ s.names
  · rw [if_pos present, names_insert_of_contains (by simpa [contains, names] using present)]
  · have absent : s.contains k.name = false := by simpa [contains, names] using present
    rw [if_neg present]
    unfold insert
    rw [if_neg (by simp [absent])]
    simp [names]

theorem find?_insert (s : Schema) (k : Key) (n : String) :
    (s.insert k).find? n = if k.name = n then some k else s.find? n := by
  unfold insert find?
  split
  · rename_i present
    have keeps : ((·.name == n) ∘ fun e : Key => if e.name == k.name then k else e) =
        (·.name == n) := by
      funext e
      by_cases same : e.name = k.name <;> simp [same]
    rw [List.find?_map, keeps]
    cases found : s.keys.find? (·.name == n) with
    | none =>
      have other : k.name ≠ n := by
        intro same
        obtain ⟨e, mem, named⟩ := List.any_eq_true.mp present
        exact List.find?_eq_none.mp found e mem (by simpa [same] using named)
      simp [other]
    | some e =>
      have named : e.name = n := by simpa using List.find?_some found
      by_cases same : k.name = n
      · simp [same, named]
      · have : e.name ≠ k.name := fun h => same (h ▸ named)
        simp [same, this]
  · rename_i absent
    rw [List.find?_append]
    by_cases same : k.name = n
    · have none : s.keys.find? (·.name == n) = none := by
        rw [List.find?_eq_none]
        intro e mem named
        exact absent (List.any_eq_true.mpr ⟨e, mem, by simpa [same] using named⟩)
      simp [same, none]
    · simp [same]

theorem find?_extend (s : Schema) (ks : List Key) (n : String) :
    (s.extend ks).find? n = (ks.reverse.find? (·.name == n)).or (s.find? n) := by
  induction ks generalizing s with
  | nil => simp [extend]
  | cons k ks ih =>
    rw [extend, List.foldl_cons, ← extend, ih, find?_insert, List.reverse_cons,
      List.find?_append, Option.or_assoc]
    by_cases same : k.name = n <;> simp [same]

theorem names_extend (s : Schema) (ks : List Key) :
    (s.extend ks).names = s.names ++ ((ks.map (·.name)).removeAll s.names).eraseDups := by
  induction ks generalizing s with
  | nil => simp [extend, List.removeAll]
  | cons k ks ih =>
    rw [extend, List.foldl_cons, ← extend, ih, names_insert, List.map_cons]
    by_cases present : k.name ∈ s.names
    · simp [present, List.removeAll]
    · have dropped : (ks.map (·.name)).removeAll (s.names ++ [k.name]) =
          ((ks.map (·.name)).removeAll s.names).filter fun m => !m == k.name := by
        simp only [List.removeAll, List.filter_filter]
        congr 1
        funext m
        rw [beq_eq_decide]
        simp [Bool.and_comm]
      have first : (k.name :: ks.map (·.name)).removeAll s.names =
          k.name :: (ks.map (·.name)).removeAll s.names := by
        simp [List.removeAll, present]
      rw [if_neg present, first, List.eraseDups_cons, dropped, List.append_assoc,
        List.singleton_append]

theorem size_eq_length_names (s : Schema) : s.size = s.names.length := by
  simp [size, names]

/-- Extending a schema by keys: the names are the schema's names followed by the new ones
at their first occurrence; under each name stands the last added key of that name, else
the key held before; the number of keys is the number of distinct names; extending twice
is extending once by both sequences; and declaring a key under a name the schema holds
leaves the names unchanged. -/
theorem extend_ordered_table {d : Schema} (nd : d.names.Nodup) (ks : List Key) :
    (d.extend ks).names = d.names ++ ((ks.map (·.name)).removeAll d.names).eraseDups ∧
    (∀ n, (d.extend ks).find? n = (ks.reverse.find? (·.name == n)).or (d.find? n)) ∧
    (d.extend ks).size = (d.names ++ ks.map (·.name)).eraseDups.length ∧
    (∀ a b : List Key, (d.extend a).extend b = d.extend (a ++ b)) ∧
    (∀ room decl s', (∀ n, decl.name = .str n → n ∈ d.names) → d.define room decl = .ok s' →
      s'.names = d.names) := by
  refine ⟨names_extend d ks, find?_extend d ks, ?_, fun a b => (List.foldl_append).symm, ?_⟩
  · rw [size_eq_length_names, names_extend, List.eraseDups_append, eraseDups_of_nodup nd]
  · intro room decl s' existing defined
    obtain ⟨k, made, defined⟩ := Except.bind_eq_ok_iff.mp defined
    cases defined
    have present : k.name ∈ d.names := existing k.name (Declaration.name_of_toKey made)
    simp [extend, names_insert, present]

end Schema

/-- Two required text keys of one name and one other, added to a schema of one key: the
redefined name keeps its place and its last key, the new name goes last. -/
theorem host_redefined_in_place :
    (Schema.ofKeys [⟨"host", .string, none, .high, "", none⟩]).names.Nodup ∧
    ((Schema.ofKeys [⟨"host", .string, none, .high, "", none⟩]).extend
      [⟨"port", .int, none, .low, "", none⟩, ⟨"host", .string, none, .low, "again", none⟩]).names =
      ["host", "port"] ∧
    (((Schema.ofKeys [⟨"host", .string, none, .high, "", none⟩]).extend
      [⟨"port", .int, none, .low, "", none⟩, ⟨"host", .string, none, .low, "again", none⟩]).find?
        "host").map (·.doc) = some "again" := by
  have nd : (Schema.ofKeys [⟨"host", .string, none, .high, "", none⟩]).names.Nodup := by decide
  obtain ⟨names, found, -⟩ := Schema.extend_ordered_table nd
    [⟨"port", .int, none, .low, "", none⟩, ⟨"host", .string, none, .low, "again", none⟩]
  refine ⟨nd, ?_, ?_⟩
  · rw [names]
    decide
  · rw [found]
    decide

end RestConfig
