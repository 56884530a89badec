import RestConfig.Source.Load
import RestConfig.Proofs.UnreadNames
import RestConfig.Proofs.RoundTrip

/-!
# Which source a property comes from

Loading lays three sources over each other: the file's properties, then the properties
named by environment variables, then the overrides written as texts. A name therefore reads
the override's text when it has one, else the value of a variable that names it, else the
file's value, and the names of the result are the names of the three sources together.

The decoding of variable names is not injective, so several variables may name one
property. They are visited in sorted order of their names and each replaces the one before,
so the greatest of them wins.

Main statement: `Source.load_precedence`.
-/

namespace RestConfig

namespace Props

theorem get?_isSome_iff {props : Props} {n : String} :
    (props.get? n).isSome ↔ n ∈ props.map Prod.fst := by
  simp [Props.get?, List.find?_isSome]

theorem get?_append (a b : Props) (n : String) : (a ++ b).get? n = (a.get? n).or (b.get? n) := by
  simp [Props.get?, List.find?_append, Option.map_or]

theorem get?_overlay (props extra : Props) (n : String) :
    (props.overlay extra).get? n = (Props.get? extra.reverse n).or (props.get? n) := by
  induction extra generalizing props with
  | nil => rfl
  | cons e rest ih =>
    have later : props.overlay (e :: rest) = (props.set e.1 e.2).overlay rest := rfl
    rw [later, ih, get?_set, List.reverse_cons, get?_append, Option.or_assoc]
    by_cases same : n = e.1
    · simp [Props.get?, same]
    · simp [Props.get?, same, Ne.symm same]

theorem mem_overlay_iff {props extra : Props} {n : String} :
    n ∈ (props.overlay extra).map Prod.fst ↔
      n ∈ props.map Prod.fst ∨ n ∈ extra.map Prod.fst := by
  rw [← get?_isSome_iff, get?_overlay, Option.isSome_or, Bool.or_eq_true, get?_isSome_iff,
    get?_isSome_iff, List.map_reverse, List.mem_reverse, or_comm]

theorem mem_set_iff {props : Props} {n m : String} {v : Value} :
    m ∈ (props.set n v).map Prod.fst ↔ m = n ∨ m ∈ props.map Prod.fst := by
  rw [← get?_isSome_iff, get?_set, ← get?_isSome_iff]
  by_cases same : m = n <;> simp [same]

theorem get?_reverse {props : Props} (distinct : (props.map Prod.fst).Nodup) (n : String) :
    Props.get? props.reverse n = props.get? n := by
  have reversed : (props.reverse.map Prod.fst).Nodup := by
    rwa [List.map_reverse, List.nodup_reverse]
  cases found : props.get? n with
  | none =>
    apply Props.get?_eq_none
    rw [List.map_reverse, List.mem_reverse, ← get?_isSome_iff, found]
    simp
  | some v => exact Props.get?_of_mem reversed (List.mem_reverse.mpr (Props.mem_of_get? found))

theorem nodup_set {props : Props} (distinct : (props.map Prod.fst).Nodup) (n : String)
    (v : Value) : ((props.set n v).map Prod.fst).Nodup := by
  unfold Props.set
  split
  · have keeps : (Prod.fst ∘ fun p : String × Value => if p.1 == n then (n, v) else p) =
        Prod.fst := by
      funext p
      by_cases h : p.1 = n <;> simp [h]
    rwa [List.map_map, keeps]
  · rename_i absent
    rw [List.map_append, List.nodup_append]
    refine ⟨distinct, by simp, fun a mem b fresh same => absent ?_⟩
    simp only [List.map_cons, List.map_nil, List.mem_singleton] at fresh
    subst fresh same
    obtain ⟨e, inProps, rfl⟩ := List.mem_map.mp mem
    exact List.any_eq_true.mpr ⟨e, inProps, by simp⟩

theorem nodup_overlay {props : Props} (distinct : (props.map Prod.fst).Nodup) (extra : Props) :
    ((props.overlay extra).map Prod.fst).Nodup := by
  induction extra generalizing props with
  | nil => exact distinct
  | cons e rest ih => exact ih (nodup_set distinct e.1 e.2)

theorem get?_map_str (file : List (String × String)) (n : String) :
    Props.get? (file.map fun (k, v) => (k, Value.str v)) n = (file.lookup n).map .str := by
  induction file with
  | nil => rfl
  | cons e rest ih =>
    by_cases same : e.1 = n
    · simp [Props.get?, List.lookup, same]
    · have differ : (n == e.1) = false := by simpa using Ne.symm same
      have skip : Props.get? ((e.1, Value.str e.2) :: rest.map fun (k, v) => (k, Value.str v)) n =
          Props.get? (rest.map fun (k, v) => (k, Value.str v)) n := by
        simp [Props.get?, same]
      rw [List.map_cons, skip, ih, List.lookup, differ]

end Props

namespace Environment

/-- The property a variable names: its part after the lead, decoded. -/
def propertyOf (lead x : String) : String :=
  propertyName (String.ofList (x.toList.drop lead.length))

/-- A variable names a property: it starts with the lead, goes on past it, and its part
after the lead decodes to the property's name. -/
def Names (lead name x : String) : Prop :=
  lead.toList <+: x.toList ∧ x ≠ lead ∧ propertyOf lead x = name

/-- The variables with the lead and something after it, in sorted order of their names. -/
def sortedVariables (environ : List (String × Value)) (lead : String) : List (String × Value) :=
  (environ.filter fun (n, _) => lead.toList.isPrefixOf n.toList && n.length > lead.length).mergeSort
    fun a b => decide (a.1 ≤ b.1)

theorem properties_eq_overlay (environ : List (String × Value)) (lead : String) :
    properties environ lead =
      Props.overlay [] ((sortedVariables environ lead).map fun e => (propertyOf lead e.1, e.2)) := by
  unfold properties Props.overlay sortedVariables
  rw [List.foldl_map]
  rfl

theorem selected_iff {lead x : String} :
    (lead.toList.isPrefixOf x.toList && decide (x.length > lead.length)) = true ↔
      lead.toList <+: x.toList ∧ x ≠ lead := by
  rw [Bool.and_eq_true, List.isPrefixOf_iff_prefix, decide_eq_true_iff]
  refine and_congr_right fun pre => ⟨fun longer same => ?_, fun differ => ?_⟩
  · rw [same] at longer
    exact Nat.lt_irrefl _ longer
  · have atLeast : lead.length ≤ x.length := by
      simpa only [String.length_toList] using pre.length_le
    refine Nat.lt_of_le_of_ne atLeast fun equal => differ ?_
    rw [← String.toList_inj]
    exact (pre.eq_of_length (by simpa only [String.length_toList] using equal)).symm

theorem sortedVariables_sorted (environ : List (String × Value)) (lead : String) :
    (sortedVariables environ lead).Pairwise fun a b => a.1 ≤ b.1 := by
  have sorted := @List.pairwise_mergeSort _ (fun a b : String × Value => decide (a.1 ≤ b.1))
    (fun _ _ _ ab bc => by simpa using String.le_trans (by simpa using ab) (by simpa using bc))
    (fun a b => by simpa using String.le_total a.1 b.1)
    (environ.filter fun (n, _) => lead.toList.isPrefixOf n.toList && n.length > lead.length)
  unfold sortedVariables
  simpa using sorted

theorem mem_sortedVariables {environ : List (String × Value)} {lead : String}
    {e : String × Value} :
    e ∈ sortedVariables environ lead ↔ e ∈ environ ∧ lead.toList <+: e.1.toList ∧ e.1 ≠ lead := by
  rw [sortedVariables, (List.mergeSort_perm _ _).mem_iff, List.mem_filter, ← selected_iff]

theorem le_of_find?_reverse {l : List (String × Value)} (sorted : l.Pairwise fun a b => a.1 ≤ b.1)
    {p : String × Value → Bool} {e : String × Value} (found : l.reverse.find? p = some e) :
    ∀ y ∈ l, p y → y.1 ≤ e.1 := by
  obtain ⟨-, after, before, split, skipped⟩ := List.find?_eq_some_iff_append.mp found
  have whole : l = before.reverse ++ e :: after.reverse := by
    rw [← List.reverse_reverse l, split]
    simp
  intro y mem holds
  rw [whole, List.pairwise_append] at sorted
  rw [whole, List.mem_append, List.mem_cons] at mem
  rcases mem with early | rfl | late
  · exact sorted.2.2 y early e (List.mem_cons_self ..)
  · exact String.le_refl _
  · exact absurd holds (by simpa using skipped y (List.mem_reverse.mp late))

theorem get?_properties (environ : List (String × Value)) (lead name : String) :
    Props.get? (properties environ lead) name =
      ((sortedVariables environ lead).reverse.find? fun e => propertyOf lead e.1 == name).map (·.2) := by
  rw [properties_eq_overlay, Props.get?_overlay, Props.get?, ← List.map_reverse, List.find?_map,
    Option.map_map]
  simp only [Props.get?, List.find?_nil, Option.map_none, Option.or_none]
  rfl

theorem nodup_properties (environ : List (String × Value)) (lead : String) :
    ((properties environ lead).map Prod.fst).Nodup := by
  rw [properties_eq_overlay]
  exact Props.nodup_overlay (by simp) _

theorem get?_properties_of_greatest {environ : List (String × Value)} {lead name x : String}
    {v : Value} (distinct : (environ.map Prod.fst).Nodup) (mem : (x, v) ∈ environ)
    (names : Names lead name x) (greatest : ∀ y ∈ environ.map Prod.fst, Names lead name y → y ≤ x) :
    Props.get? (properties environ lead) name = some v := by
  obtain ⟨pre, differ, decodes⟩ := names
  have listed : (x, v) ∈ sortedVariables environ lead := mem_sortedVariables.mpr ⟨mem, pre, differ⟩
  rw [get?_properties]
  cases found : (sortedVariables environ lead).reverse.find? fun e => propertyOf lead e.1 == name with
  | none =>
    rw [List.find?_eq_none] at found
    exact absurd (by simpa using decodes) (found (x, v) (List.mem_reverse.mpr listed))
  | some e =>
    obtain ⟨inEnviron, ePre, eDiffer⟩ :=
      mem_sortedVariables.mp (List.mem_reverse.mp (List.mem_of_find?_eq_some found))
    have eNames : propertyOf lead e.1 = name := by simpa using List.find?_some found
    have above : e.1 ≤ x :=
      greatest e.1 (List.mem_map_of_mem inEnviron) ⟨ePre, eDiffer, eNames⟩
    have below : x ≤ e.1 :=
      le_of_find?_reverse (sortedVariables_sorted environ lead) found (x, v) listed
        (by simpa using decodes)
    have same : e = (x, v) := by
      have key : e.1 = x := String.le_antisymm above below
      obtain ⟨k, w⟩ := e
      simp only at key
      subst key
      rw [List.inj_on_of_nodup_map distinct inEnviron mem rfl]
    rw [same]
    rfl

theorem get?_properties_eq_none {environ : List (String × Value)} {lead name : String}
    (unnamed : ∀ y ∈ environ.map Prod.fst, ¬ Names lead name y) :
    Props.get? (properties environ lead) name = none := by
  rw [get?_properties, Option.map_eq_none_iff, List.find?_eq_none]
  intro e mem decodes
  obtain ⟨inEnviron, pre, differ⟩ := mem_sortedVariables.mp (List.mem_reverse.mp mem)
  exact unnamed e.1 (List.mem_map_of_mem inEnviron) ⟨pre, differ, by simpa using decodes⟩

end Environment

namespace Source

/-- Loading reads the file, lays the environment's properties over its properties, then lays
the overrides, in sorted order, each written as a text. -/
theorem load_eq_bind (tree : Files.Tree) (home : String) (room : Nat) (path : Option String)
    (environ overrides : List (String × Value)) (lead : String) :
    load tree home room path environ overrides lead =
      (match path with
        | some p => readConfig tree home (room - 1) p
        | none => pure []) >>= fun F =>
      (overrides.mergeSort fun a b => decide (a.1 ≤ b.1)).foldlM (fun m (kv : String × Value) => do
          let s ← Flatten.stringify (room - 1) kv.1 kv.2
          pure (setValue m kv.1 (.str s)))
        (Props.overlay (F.map fun (k, v) => (k, Value.str v)) (Environment.properties environ lead)) := by
  cases path <;> rfl

/-- What laying the overrides gives when every override has a text: each override's name
reads its text, every other name reads as before, and the names grow by the overrides'. -/
theorem overrides_laid {room : Nat} :
    ∀ {overrides : List (String × Value)} {merged M : Props},
      (overrides.map Prod.fst).Nodup →
      overrides.foldlM (fun m (kv : String × Value) => do
        let s ← Flatten.stringify room kv.1 kv.2
        pure (setValue m kv.1 (.str s))) merged = .ok M →
      (∀ k v, (k, v) ∈ overrides → ∃ s, Flatten.stringify room k v = .ok s ∧ Props.get? M k = some (.str s)) ∧
      (∀ k, k ∉ overrides.map Prod.fst → Props.get? M k = merged.get? k) ∧
      (∀ k, k ∈ M.map Prod.fst ↔ k ∈ merged.map Prod.fst ∨ k ∈ overrides.map Prod.fst)
  | [], merged, M, _, laid => by
    cases laid
    simp
  | (k, v) :: rest, merged, M, distinct, laid => by
    rw [List.map_cons, List.nodup_cons] at distinct
    rw [List.foldlM_cons, Except.bind_eq_ok_iff] at laid
    obtain ⟨next, step, later⟩ := laid
    rw [Except.bind_eq_ok_iff] at step
    obtain ⟨s, written, stepped⟩ := step
    cases stepped
    obtain ⟨texts, kept, names⟩ := overrides_laid distinct.2 later
    have setHere : setValue merged k (.str s) = merged.set k (.str s) := rfl
    refine ⟨fun k' v' mem => ?_, fun k' absent => ?_, fun k' => ?_⟩
    · rcases List.mem_cons.mp mem with same | inRest
      · cases same
        refine ⟨s, written, ?_⟩
        rw [kept k distinct.1, setHere, Props.get?_set_self]
      · exact texts k' v' inRest
    · simp only [List.map_cons, List.mem_cons, not_or] at absent
      rw [kept k' absent.2, setHere, Props.get?_set_of_ne _ absent.1]
    · rw [names k', setHere, Props.mem_set_iff, List.map_cons, List.mem_cons]
      tauto

/-- Loading is an overlay of its sources: the names loaded are those of the file (when a
path is given), of the environment's properties and of the overrides; a name reads the text
of its override when it has one, else the value of the greatest variable that names it,
else the file's value. -/
theorem load_precedence {tree : Files.Tree} {home : String} {room : Nat} {path : Option String}
    {environ overrides : List (String × Value)} {lead : String} {M : List (String × Value)}
    (distinctVariables : (environ.map Prod.fst).Nodup)
    (distinctOverrides : (overrides.map Prod.fst).Nodup)
    (loaded : load tree home room path environ overrides lead = .ok M) :
    ∃ F : List (String × String),
      (path = none ∧ F = [] ∨ ∃ p, path = some p ∧ readConfig tree home (room - 1) p = .ok F) ∧
      (∀ k, k ∈ M.map Prod.fst ↔ k ∈ F.map Prod.fst ∨
        k ∈ (Environment.properties environ lead).map Prod.fst ∨ k ∈ overrides.map Prod.fst) ∧
      (∀ k v, (k, v) ∈ overrides →
        ∃ s, Flatten.stringify (room - 1) k v = .ok s ∧ Props.get? M k = some (.str s)) ∧
      (∀ k x v, k ∉ overrides.map Prod.fst → (x, v) ∈ environ → Environment.Names lead k x →
        (∀ y ∈ environ.map Prod.fst, Environment.Names lead k y → y ≤ x) →
        Props.get? M k = some v) ∧
      (∀ k, k ∉ overrides.map Prod.fst →
        (∀ y ∈ environ.map Prod.fst, ¬ Environment.Names lead k y) →
        Props.get? M k = (F.lookup k).map Value.str) := by
  rw [load_eq_bind, Except.bind_eq_ok_iff] at loaded
  obtain ⟨F, read, laid⟩ := loaded
  have distinctSorted : ((overrides.mergeSort fun a b => decide (a.1 ≤ b.1)).map Prod.fst).Nodup :=
    ((List.mergeSort_perm _ _).map Prod.fst).nodup_iff.mpr distinctOverrides
  obtain ⟨texts, kept, names⟩ := overrides_laid distinctSorted laid
  have sortedMem {k v} : (k, v) ∈ overrides.mergeSort (fun a b => decide (a.1 ≤ b.1)) ↔
      (k, v) ∈ overrides := (List.mergeSort_perm _ _).mem_iff
  have sortedNames {k} : k ∈ (overrides.mergeSort fun a b => decide (a.1 ≤ b.1)).map Prod.fst ↔
      k ∈ overrides.map Prod.fst := ((List.mergeSort_perm _ _).map Prod.fst).mem_iff
  refine ⟨F, ?_, fun k => ?_, fun k v mem => texts k v (sortedMem.mpr mem), ?_, ?_⟩
  · cases path with
    | none => exact .inl ⟨rfl, by cases read; rfl⟩
    | some p => exact .inr ⟨p, rfl, read⟩
  · rw [names, Props.mem_overlay_iff, sortedNames, List.map_map]
    simp only [Function.comp_def, or_assoc]
  · intro k x v absent mem decodes greatest
    rw [kept k (mt sortedNames.mp absent), Props.get?_overlay,
      Props.get?_reverse (Environment.nodup_properties environ lead),
      Environment.get?_properties_of_greatest distinctVariables mem decodes greatest]
    rfl
  · intro k absent unnamed
    rw [kept k (mt sortedNames.mp absent), Props.get?_overlay,
      Props.get?_reverse (Environment.nodup_properties environ lead),
      Environment.get?_properties_eq_none unnamed, Props.get?_map_str]
    rfl

/-- Of the two variables that name `x`, `KAFKA_REST_x` is the greater and gives its value; an
override writes its integer as text. -/
theorem greater_variable_and_override_win :
    ([("KAFKA_REST_X", Value.str "a"), ("KAFKA_REST_x", .str "b"), ("PATH", .str "c")].map
      Prod.fst).Nodup ∧
    ([("y", Value.int 3)].map Prod.fst).Nodup ∧
    load default "" 8 none [("KAFKA_REST_X", .str "a"), ("KAFKA_REST_x", .str "b"), ("PATH", .str "c")]
      [("y", .int 3)] Environment.defaultLead = .ok [("x", .str "b"), ("y", .str "3")] ∧
    ∃ F : List (String × String),
      (none = (none : Option String) ∧ F = [] ∨ ∃ p, (none : Option String) = some p ∧
        readConfig default "" (8 - 1) p = .ok F) ∧
      (∀ k, k ∈ [("x", Value.str "b"), ("y", .str "3")].map Prod.fst ↔ k ∈ F.map Prod.fst ∨
        k ∈ (Environment.properties [("KAFKA_REST_X", .str "a"), ("KAFKA_REST_x", .str "b"),
          ("PATH", .str "c")] Environment.defaultLead).map Prod.fst ∨
        k ∈ [("y", Value.int 3)].map Prod.fst) ∧
      (∀ k v, (k, v) ∈ [("y", Value.int 3)] → ∃ s, Flatten.stringify (8 - 1) k v = .ok s ∧
        Props.get? [("x", .str "b"), ("y", .str "3")] k = some (.str s)) ∧
      (∀ k x v, k ∉ [("y", Value.int 3)].map Prod.fst →
        (x, v) ∈ [("KAFKA_REST_X", Value.str "a"), ("KAFKA_REST_x", .str "b"), ("PATH", .str "c")] →
        Environment.Names Environment.defaultLead k x →
        (∀ y ∈ [("KAFKA_REST_X", Value.str "a"), ("KAFKA_REST_x", .str "b"),
          ("PATH", .str "c")].map Prod.fst, Environment.Names Environment.defaultLead k y → y ≤ x) →
        Props.get? [("x", .str "b"), ("y", .str "3")] k = some v) ∧
      (∀ k, k ∉ [("y", Value.int 3)].map Prod.fst →
        (∀ y ∈ [("KAFKA_REST_X", Value.str "a"), ("KAFKA_REST_x", .str "b"),
          ("PATH", .str "c")].map Prod.fst, ¬ Environment.Names Environment.defaultLead k y) →
        Props.get? [("x", .str "b"), ("y", .str "3")] k = (F.lookup k).map Value.str) := by
  have loaded : load default "" 8 none [("KAFKA_REST_X", .str "a"), ("KAFKA_REST_x", .str "b"),
      ("PATH", .str "c")] [("y", .int 3)] Environment.defaultLead =
      .ok [("x", .str "b"), ("y", .str "3")] := by
    -- sorting is well-founded recursion, which does not unfold: both lists are sorted already
    have chosen : ([("KAFKA_REST_X", Value.str "a"), ("KAFKA_REST_x", .str "b"),
        ("PATH", .str "c")].filter fun (n, _) => Environment.defaultLead.toList.isPrefixOf n.toList &&
          n.length > Environment.defaultLead.length) =
        [("KAFKA_REST_X", Value.str "a"), ("KAFKA_REST_x", .str "b")] := by
      with_unfolding_all rfl
    have sorted : ([("KAFKA_REST_X", Value.str "a"), ("KAFKA_REST_x", .str "b")].mergeSort
        fun a b => decide (a.1 ≤ b.1)) = [("KAFKA_REST_X", Value.str "a"), ("KAFKA_REST_x", .str "b")] :=
      List.mergeSort_of_pairwise (by decide)
    unfold load Environment.properties
    simp only [chosen, sorted, List.mergeSort_singleton]
    with_unfolding_all rfl
  exact ⟨by decide, by decide, loaded, load_precedence (by decide) (by decide) loaded⟩

end Source

end RestConfig
