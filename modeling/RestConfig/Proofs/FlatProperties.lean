import Mathlib
import RestConfig.Source.Flatten
import RestConfig.Proofs.DocumentedKeys
import RestConfig.Proofs.Rendering

/-!
# Flat properties of a document

A document is a mapping whose leaves are texts, numbers, booleans, nothing, or lists and
tuples of those. Flattening visits its leaves depth first, the keys of every level in stable
sorted order of their displays (`leavesOf`), names each leaf by the displays on its path
joined by dots, writes it as text, and keeps, for each name, the last leaf visited.

Flattening succeeds on every document whose integers, keys and values alike, have at most
4300 digits, when the room left covers its nesting; a larger integer cannot be written in
decimal and fails the whole document.

Main statement: `Flatten.flatten_document`.
-/

namespace RestConfig.Flatten

/-! ## Documents and their leaves -/

/-- A value a list of a document may hold: a text, a number, a boolean or nothing. -/
def Scalar : Value → Prop
  | .none | .bool _ | .int _ | .float _ | .str _ => True
  | _ => False

mutual
/-- A document: a mapping whose leaves are scalars or lists and tuples of scalars. -/
def Document : Value → Prop
  | .map entries => DocumentEntries entries
  | .list items | .tuple items => ∀ v ∈ items, Scalar v
  | v => Scalar v

/-- The entries of a document. -/
def DocumentEntries : List (Value × Value) → Prop
  | [] => True
  | (_, v) :: rest => Document v ∧ DocumentEntries rest
end

mutual
/-- How many mappings deep a value reaches. -/
def mapDepth : Value → Nat
  | .map entries => entriesDepth entries + 1
  | _ => 0

/-- How many mappings deep the values of a mapping reach. -/
def entriesDepth : List (Value × Value) → Nat
  | [] => 0
  | (_, v) :: rest => max (mapDepth v) (entriesDepth rest)
end

/-- The entries of a mapping with their keys' displays, in stable sorted order of the
displays: the order flattening visits them in. -/
def visitOrder (entries : List (Value × Value)) : List (String × Value) :=
  (entries.map fun e => (e.1.display, e.2)).mergeSort fun a b => decide (a.1 ≤ b.1)

/-- The leaves below a value reached by a path, with their paths, in visiting order. -/
def leavesOf (path : List String) : Value → List (List String × Value)
  | .map entries => (visitOrder entries).attach.flatMap fun ⟨e, _⟩ => leavesOf (path ++ [e.1]) e.2
  | v => [(path, v)]
termination_by v => sizeOf v
decreasing_by
  obtain ⟨⟨k, w⟩, hk, rfl⟩ := List.mem_map.mp (List.mem_mergeSort.mp ‹_›)
  have inner := List.sizeOf_lt_of_mem hk
  simp only [Prod.mk.sizeOf_spec] at inner
  simp only [Value.map.sizeOf_spec]
  omega

/-- A path of key displays from a value to a leaf, a value that is not a mapping. -/
inductive IsLeaf : Value → List String → Value → Prop
  | leaf {v : Value} : (∀ es, v ≠ .map es) → IsLeaf v [] v
  | step {entries : List (Value × Value)} {k w : Value} {p : List String} {u : Value} :
      (k, w) ∈ entries → IsLeaf w p u → IsLeaf (.map entries) (k.display :: p) u

theorem mem_visitOrder {entries : List (Value × Value)} {e : String × Value} :
    e ∈ visitOrder entries ↔ ∃ k, (k, e.2) ∈ entries ∧ k.display = e.1 := by
  rw [visitOrder, List.mem_mergeSort, List.mem_map]
  constructor
  · rintro ⟨⟨k, w⟩, hk, rfl⟩
    exact ⟨k, hk, rfl⟩
  · rintro ⟨k, hk, same⟩
    exact ⟨(k, e.2), hk, by rw [same]⟩

theorem leavesOf_map (path : List String) (entries : List (Value × Value)) :
    leavesOf path (.map entries) =
      (visitOrder entries).flatMap fun e => leavesOf (path ++ [e.1]) e.2 := by
  rw [leavesOf, List.flatMap_subtype fun _ _ => rfl, List.unattach_attach]

theorem leavesOf_leaf (path : List String) {v : Value} (leaf : ∀ es, v ≠ .map es) :
    leavesOf path v = [(path, v)] := by
  rw [leavesOf.eq_2 _ _ leaf]

theorem mem_leavesOf (path : List String) (v : Value) (p : List String) (u : Value) :
    (p, u) ∈ leavesOf path v ↔ ∃ q, p = path ++ q ∧ IsLeaf v q u := by
  fun_induction leavesOf path v with
  | case1 path entries ih =>
    rw [List.flatMap_subtype fun _ _ => rfl, List.unattach_attach, List.mem_flatMap]
    constructor
    · rintro ⟨⟨s, w⟩, he, below⟩
      obtain ⟨q, rfl, leaf⟩ := (ih _ he).mp below
      obtain ⟨k, hk, rfl⟩ := mem_visitOrder.mp he
      exact ⟨k.display :: q, by simp, .step hk leaf⟩
    · rintro ⟨q, rfl, leaf⟩
      cases leaf with
      | leaf not_map => exact absurd rfl (not_map entries)
      | @step _ k w q _ hk rest =>
        have he : (k.display, w) ∈ visitOrder entries := mem_visitOrder.mpr ⟨k, hk, rfl⟩
        exact ⟨_, he, (ih _ he).mpr ⟨q, by simp, rest⟩⟩
  | case2 path v leaf =>
    rw [List.mem_singleton, Prod.mk.injEq]
    constructor
    · rintro ⟨rfl, rfl⟩
      exact ⟨[], by simp, .leaf leaf⟩
    · rintro ⟨q, rfl, found⟩
      cases found with
      | leaf _ => simp
      | step => exact absurd rfl (leaf _)

theorem mem_leavesOf_root {v : Value} {p : List String} {u : Value} :
    (p, u) ∈ leavesOf [] v ↔ IsLeaf v p u := by
  rw [mem_leavesOf]
  simp

theorem IsLeaf.not_map {v : Value} {p : List String} {u : Value} (leaf : IsLeaf v p u) :
    ∀ es, u ≠ .map es := by
  induction leaf with
  | leaf not_map => exact not_map
  | step _ _ ih => exact ih

/-! ## What a document gives at each step -/

theorem DocumentEntries.mem {entries : List (Value × Value)} (doc : DocumentEntries entries)
    {k w : Value} (hk : (k, w) ∈ entries) : Document w := by
  induction entries with
  | nil => cases hk
  | cons e rest ih =>
    obtain ⟨here, more⟩ := doc
    rcases List.mem_cons.mp hk with rfl | later
    · exact here
    · exact ih more later

theorem citable_of_mem {entries : List (Value × Value)} (cited : (Value.map entries).citable = true)
    {k w : Value} (hk : (k, w) ∈ entries) : k.citable = true ∧ w.citable = true := by
  simp only [Value.citable] at cited
  exact (Value.citableEntries_iff entries).mp cited _ hk

theorem mapDepth_le {entries : List (Value × Value)} {k w : Value} (hk : (k, w) ∈ entries) :
    mapDepth w ≤ entriesDepth entries := by
  induction entries with
  | nil => cases hk
  | cons e rest ih =>
    rw [entriesDepth]
    rcases List.mem_cons.mp hk with rfl | later
    · exact le_max_left _ _
    · exact le_trans (ih later) (le_max_right _ _)

theorem citable_of_mem_items {items : List Value} (cited : Value.citableItems items = true)
    {x : Value} (hx : x ∈ items) : x.citable = true :=
  (Value.citableItems_iff items).mp cited x hx

theorem keyText_of_citable {k : Value} (cited : k.citable = true) : keyText k = .ok k.display := by
  cases k with
  | int i =>
    simp only [Value.citable, decide_eq_true_eq] at cited
    rw [keyText, intText, if_neg (by omega)]
    rfl
  | _ => rfl

/-- The text flattening writes for a scalar: nothing as the empty text, a boolean in lower
case, a text or a number by its display. -/
def scalarText : Value → String
  | .none => ""
  | .bool b => if b then "true" else "false"
  | v => v.display

/-- The text flattening writes for a leaf of a document: a list or a tuple as its items' texts
joined by commas. -/
def leafText : Value → String
  | .list items | .tuple items => ",".intercalate (items.map scalarText)
  | v => scalarText v

theorem stringifyIn_scalar {v : Value} (scalar : Scalar v) (cited : v.citable = true)
    (name : String) (r : Nat) : stringifyIn treeShape name (r + 1) v = .ok (scalarText v) := by
  cases v with
  | none => rfl
  | bool b => rfl
  | int i =>
    simp only [Value.citable, decide_eq_true_eq] at cited
    show intText i = .ok (toString i)
    rw [intText, if_neg (by omega)]
  | float x => rfl
  | str s => rfl
  | _ => exact scalar.elim

theorem stringifyIn_leaf {v : Value} (doc : Document v) (leaf : ∀ es, v ≠ .map es)
    (cited : v.citable = true) (name : String) {r : Nat} (roomy : 4 ≤ r) :
    stringifyIn treeShape name r v = .ok (leafText v) := by
  obtain ⟨r, rfl⟩ : ∃ r', r = r' + 4 := ⟨r - 4, by omega⟩
  have items : ∀ items : List Value, (∀ x ∈ items, Scalar x) →
      Value.citableItems items = true →
      (",".intercalate ·) <$> items.mapM (stringifyIn treeShape name (r + 1)) =
        .ok (",".intercalate (items.map scalarText)) := by
    intro items scalars cited
    have each : ∀ x ∈ items, stringifyIn treeShape name (r + 1) x = .ok (scalarText x) :=
      fun x hx => stringifyIn_scalar (scalars x hx) (citable_of_mem_items cited hx) name r
    rw [mapM_eq_ok_map each]
    rfl
  cases v with
  | list xs =>
    cases xs with
    | nil => rfl
    | cons x xs => exact items (x :: xs) doc cited
  | tuple xs =>
    cases xs with
    | nil => rfl
    | cons x xs => exact items (x :: xs) doc cited
  | map es => exact absurd rfl (leaf es)
  | _ =>
    simp only [Document] at doc
    exact stringifyIn_scalar doc cited name (r + 3)

/-- On a document with room for its nesting, the flat pairs are its leaves in visiting order,
each with its dotted name and text. -/
theorem pairsIn_document : ∀ (room : Nat) (path : List String) (entries : List (Value × Value)),
    DocumentEntries entries → (Value.map entries).citable = true →
    entriesDepth entries + 5 ≤ room →
    pairsIn treeShape room path entries =
      .ok ((leavesOf path (.map entries)).map fun l => (".".intercalate l.1, leafText l.2)) := by
  intro room
  induction room using Nat.strong_induction_on with
  | _ room ih =>
  intro path entries doc cited roomy
  obtain ⟨r, rfl⟩ : ∃ r, room = r + 4 := ⟨room - 4, by omega⟩
  rw [pairsIn, @mapM_eq_ok_map _ _ _ _ (fun e => (e.1.display, e.2)) _ ?shown, Except.ok_bind]
  case shown =>
    rintro ⟨k, w⟩ hk
    dsimp only
    rw [keyText_of_citable (citable_of_mem cited hk).1]
    rfl
  dsimp only
  rw [@mapM_eq_ok_map _ _ _ _
    (fun e => (leavesOf (path ++ [e.1]) e.2).map fun l => (".".intercalate l.1, leafText l.2)) _
    ?visits]
  case visits =>
    rintro ⟨s, w⟩ he
    dsimp only
    obtain ⟨k, hk, rfl⟩ := mem_visitOrder.mp he
    have deep := mapDepth_le hk
    by_cases below : ∃ es, w = .map es
    · obtain ⟨es, rfl⟩ := below
      rw [mapDepth] at deep
      show pairsIn treeShape (r + 3) (path ++ [k.display]) es = _
      exact ih (r + 3) (by omega) _ es (doc.mem hk) (citable_of_mem cited hk).2 (by omega)
    · push Not at below
      have written := stringifyIn_leaf (doc.mem hk) below (citable_of_mem cited hk).2
        (".".intercalate (path ++ [k.display])) (show 4 ≤ r + 3 by omega)
      rw [leavesOf_leaf _ below]
      split
      · rename_i es shape
        cases w <;> simp [treeShape] at shape
        exact absurd rfl (below _)
      · rw [written]
        rfl
  rw [Except.ok_bind, Except.pure_eq_ok, leavesOf_map, List.map_flatMap]
  rfl

/-! ## The last leaf of each name -/

theorem lookup_setName (m : List (String × String)) (k v n : String) :
    (setName m k v).lookup n = if n = k then some v else m.lookup n :=
  lookup_setInPlace m k n v

theorem lookup_foldl_setName (pairs m : List (String × String)) (n : String) :
    (pairs.foldl (fun m p => setName m p.1 p.2) m).lookup n =
      (pairs.reverse.lookup n).or (m.lookup n) := by
  induction pairs generalizing m with
  | nil => simp
  | cons p rest ih =>
    obtain ⟨k, v⟩ := p
    rw [List.foldl_cons, ih, lookup_setName, List.reverse_cons, List.lookup_append,
      Option.or_assoc, lookup_cons_ite]
    by_cases hn : n = k <;> simp [hn]

theorem nodup_setName {m : List (String × String)} (nodup : (m.map Prod.fst).Nodup)
    (k v : String) : ((setName m k v).map Prod.fst).Nodup := by
  unfold setName
  split
  · rw [List.map_map]
    convert nodup using 2
    funext p
    simp only [Function.comp_apply]
    split <;> simp_all
  · rename_i absent
    rw [List.map_append, List.nodup_append]
    refine ⟨nodup, List.nodup_singleton k, ?_⟩
    intro a ha b hb
    rw [List.map_singleton, List.mem_singleton] at hb
    subst hb
    rintro rfl
    obtain ⟨p, hp, rfl⟩ := List.mem_map.mp ha
    simp only [List.any_eq_true, beq_iff_eq, not_exists, not_and] at absent
    exact absent p hp rfl

theorem nodup_foldl_setName (pairs : List (String × String)) {m : List (String × String)}
    (nodup : (m.map Prod.fst).Nodup) :
    ((pairs.foldl (fun m p => setName m p.1 p.2) m).map Prod.fst).Nodup := by
  induction pairs generalizing m with
  | nil => exact nodup
  | cons p rest ih => exact ih (nodup_setName nodup p.1 p.2)

theorem lookup_map_pair {β : Type} (l : List β) (key val : β → String) (n : String) :
    (l.map fun x => (key x, val x)).lookup n = (l.find? fun x => n == key x).map val := by
  induction l with
  | nil => rfl
  | cons x rest ih =>
    rw [List.map_cons, lookup_cons_ite]
    by_cases hn : n = key x
    · rw [if_pos hn, List.find?_cons_of_pos (by simp [hn])]
      rfl
    · rw [if_neg hn, List.find?_cons_of_neg (by simp [hn]), ih]

theorem isSome_lookup_iff {β : Type} (l : List (String × β)) (n : String) :
    (l.lookup n).isSome ↔ n ∈ l.map Prod.fst := by
  induction l with
  | nil => simp
  | cons p rest ih =>
    obtain ⟨k, b⟩ := p
    rw [lookup_cons_ite, List.map_cons, List.mem_cons]
    by_cases hn : n = k
    · simp [hn]
    · simp [hn, ih]

/-! ## Flattening a document -/

theorem IsLeaf.document {v : Value} {p : List String} {u : Value} (leaf : IsLeaf v p u)
    (doc : Document v) (cited : v.citable = true) : Document u ∧ u.citable = true := by
  induction leaf with
  | leaf _ => exact ⟨doc, cited⟩
  | step hk _ ih =>
    simp only [Document] at doc
    exact ih (doc.mem hk) (citable_of_mem cited hk).2

theorem stringify_of_isLeaf {entries : List (Value × Value)} (doc : DocumentEntries entries)
    (cited : (Value.map entries).citable = true) {p : List String} {u : Value}
    (leaf : IsLeaf (.map entries) p u) (name : String) {room : Nat} (roomy : 4 ≤ room) :
    stringify room name u = .ok (leafText u) := by
  obtain ⟨doc_u, cited_u⟩ := leaf.document (by simpa only [Document] using doc) cited
  exact stringifyIn_leaf doc_u leaf.not_map cited_u name roomy

theorem flatten_eq_setNames {entries : List (Value × Value)} (doc : DocumentEntries entries)
    (cited : (Value.map entries).citable = true) {room : Nat} (roomy : entriesDepth entries + 5 ≤ room) :
    flatten room entries =
      .ok (((leavesOf [] (.map entries)).map fun l => (".".intercalate l.1, leafText l.2)).foldl
        (fun m p => setName m p.1 p.2) []) := by
  rw [flatten, flattenIn, pairsIn_document room [] entries doc cited roomy, Except.ok_bind,
    Except.pure_eq_ok]

theorem lookup_setNames (leaves : List (List String × Value)) (name : String) :
    ((leaves.map fun l => (".".intercalate l.1, leafText l.2)).foldl
        (fun m p => setName m p.1 p.2) []).lookup name =
      (leaves.reverse.find? fun l => name == ".".intercalate l.1).map fun l => leafText l.2 := by
  rw [lookup_foldl_setName, ← List.map_reverse, lookup_map_pair]
  exact Option.or_none

/-- Flattening a document with room for its nesting succeeds; its names are distinct and are
exactly the dotted paths to its leaves, and each reads the text of the last leaf visited under
it, so that a name shared by no two different leaves reads the text of its own leaf. -/
theorem flatten_document {entries : List (Value × Value)} (doc : DocumentEntries entries)
    (cited : (Value.map entries).citable = true) {room : Nat}
    (roomy : entriesDepth entries + 5 ≤ room) :
    ∃ out, flatten room entries = .ok out ∧ (out.map Prod.fst).Nodup ∧
      (∀ name, name ∈ out.map Prod.fst ↔
        ∃ p u, IsLeaf (.map entries) p u ∧ ".".intercalate p = name) ∧
      (∀ name t, out.lookup name = some t ↔
        ∃ l, (leavesOf [] (.map entries)).reverse.find? (fun l => name == ".".intercalate l.1) =
          some l ∧ stringify room name l.2 = .ok t) ∧
      ((∀ p u q w, IsLeaf (.map entries) p u → IsLeaf (.map entries) q w →
          ".".intercalate p = ".".intercalate q → u = w) →
        ∀ p u, IsLeaf (.map entries) p u →
          ∃ t, stringify room (".".intercalate p) u = .ok t ∧ out.lookup (".".intercalate p) = some t) := by
  have written : ∀ l ∈ (leavesOf [] (.map entries)).reverse, ∀ name,
      stringify room name l.2 = .ok (leafText l.2) := fun l hl name =>
    stringify_of_isLeaf doc cited (mem_leavesOf_root.mp (List.mem_reverse.mp hl)) name (by omega)
  refine ⟨_, flatten_eq_setNames doc cited roomy, nodup_foldl_setName _ List.nodup_nil, ?keys,
    ?values, ?distinct⟩
  case keys =>
    intro name
    rw [← isSome_lookup_iff, lookup_setNames, Option.isSome_map, List.find?_isSome]
    constructor
    · rintro ⟨l, hl, same⟩
      exact ⟨l.1, l.2, mem_leavesOf_root.mp (List.mem_reverse.mp hl), (beq_iff_eq.mp same).symm⟩
    · rintro ⟨p, u, leaf, rfl⟩
      exact ⟨(p, u), List.mem_reverse.mpr (mem_leavesOf_root.mpr leaf), by simp⟩
  case values =>
    intro name t
    rw [lookup_setNames, Option.map_eq_some_iff]
    constructor
    · rintro ⟨l, found, rfl⟩
      exact ⟨l, found, written l (List.mem_of_find?_eq_some found) name⟩
    · rintro ⟨l, found, ok⟩
      rw [written l (List.mem_of_find?_eq_some found) name, Except.ok.injEq] at ok
      exact ⟨l, found, ok⟩
  case distinct =>
    intro unique p u leaf
    have mem : (p, u) ∈ (leavesOf [] (.map entries)).reverse :=
      List.mem_reverse.mpr (mem_leavesOf_root.mpr leaf)
    obtain ⟨l, found⟩ : ∃ l, (leavesOf [] (.map entries)).reverse.find?
        (fun l => ".".intercalate p == ".".intercalate l.1) = some l :=
      Option.isSome_iff_exists.mp (List.find?_isSome.mpr ⟨(p, u), mem, by simp⟩)
    have same : ".".intercalate p = ".".intercalate l.1 := by
      simpa using List.find?_some found
    have other : IsLeaf (.map entries) l.1 l.2 :=
      mem_leavesOf_root.mp (List.mem_reverse.mp (List.mem_of_find?_eq_some found))
    have val : u = l.2 := unique p u l.1 l.2 leaf other same
    refine ⟨leafText u, written (p, u) mem _, ?_⟩
    rw [lookup_setNames, found, val]
    rfl

theorem nested_key_flattened :
    ∃ out, flatten 8 [(.str "a", .map [(.str "b", .int 2)])] = .ok out ∧
      "a.b" ∈ out.map Prod.fst := by
  obtain ⟨out, ok, _, keys, _⟩ := @flatten_document [(.str "a", .map [(.str "b", .int 2)])]
    (by simp [DocumentEntries, Document, Scalar]) (by decide) 8 (by decide)
  refine ⟨out, ok, (keys "a.b").mpr ⟨["a", "b"], .int 2, ?_, rfl⟩⟩
  exact .step (List.mem_singleton_self _) (.step (List.mem_singleton_self _) (.leaf (by simp)))

end RestConfig.Flatten
