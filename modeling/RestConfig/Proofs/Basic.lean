import RestConfig.Schema.Basic

/-!
# Outcomes and property maps

Computations of the library answer in `Except`: a bind that succeeds succeeded at each of
its stages, which is how the proofs peel a `do` block apart. Property maps are lists of
names and values read through `Props.get?`; setting a name changes what that name reads
and nothing else.
-/

namespace Except

universe u v
variable {ε : Type u} {α β : Type v}

@[simp] theorem ok_bind (a : α) (f : α → Except ε β) : (Except.ok a >>= f) = f a := rfl

@[simp] theorem error_bind (e : ε) (f : α → Except ε β) :
    (Except.error e >>= f) = Except.error e := rfl

@[simp] theorem pure_eq_ok (a : α) : (pure a : Except ε α) = .ok a := rfl

@[simp] theorem throw_eq_error (e : ε) : (throw e : Except ε α) = .error e := rfl

theorem bind_eq_ok_iff {x : Except ε α} {f : α → Except ε β} {b : β} :
    x >>= f = .ok b ↔ ∃ a, x = .ok a ∧ f a = .ok b := by
  cases x <;> simp

end Except

namespace RestConfig

/-! ## Names set in place

Properties, the answers of a command line and flat properties are lists of names and values
in which a name is set by replacing its entry where it stands, or by appending one when the
name has none. -/

theorem lookup_cons_ite {β : Type} (k n : String) (b : β) (rest : List (String × β)) :
    ((k, b) :: rest).lookup n = if n = k then some b else rest.lookup n := by
  by_cases hn : n = k
  · simp [hn]
  · rw [List.lookup_cons, beq_false_of_ne hn, if_neg hn]

theorem lookup_replace {β : Type} (m : List (String × β)) (k n : String) (v : β) :
    (m.map fun p => if p.1 == k then (k, v) else p).lookup n =
      if n = k then (if m.any (·.1 == k) then some v else none) else m.lookup n := by
  induction m with
  | nil => simp
  | cons p rest ih =>
    obtain ⟨a, b⟩ := p
    simp only [beq_iff_eq] at ih ⊢
    by_cases ha : a = k
    · subst ha
      by_cases hn : n = a <;> simp [lookup_cons_ite, hn, ih]
    · by_cases hn : n = a
      · subst hn
        simp [ha]
      · rw [List.map_cons, if_neg ha, lookup_cons_ite, if_neg hn, ih, List.any_cons,
          beq_false_of_ne ha, Bool.false_or, lookup_cons_ite, if_neg hn]

theorem lookup_setInPlace {β : Type} (m : List (String × β)) (k n : String) (v : β) :
    (if m.any (·.1 == k) then m.map (fun p => if p.1 == k then (k, v) else p)
      else m ++ [(k, v)]).lookup n = if n = k then some v else m.lookup n := by
  split
  · rename_i present
    rw [lookup_replace, present]
    simp
  · rename_i absent
    rw [List.lookup_append]
    by_cases hn : n = k
    · subst hn
      have none : m.lookup n = none := by
        rw [List.lookup_eq_none_iff]
        intro p hp
        have other : p.1 ≠ n := fun same => absent (List.any_eq_true.mpr ⟨p, hp, by simp [same]⟩)
        simpa using other.symm
      simp [none]
    · rw [lookup_cons_ite, if_neg hn, if_neg hn]
      simp

end RestConfig

namespace RestConfig.Props

theorem get?_eq_lookup (props : Props) (m : String) : props.get? m = props.lookup m := by
  induction props with
  | nil => rfl
  | cons p rest ih =>
    obtain ⟨k, v⟩ := p
    rw [lookup_cons_ite, ← ih]
    by_cases hm : m = k
    · subst hm
      simp [Props.get?]
    · simp [Props.get?, hm, Ne.symm hm]

theorem get?_set (props : Props) (n m : String) (v : Value) :
    (props.set n v).get? m = if m = n then some v else props.get? m := by
  rw [get?_eq_lookup, get?_eq_lookup]
  exact lookup_setInPlace props n m v

@[simp] theorem get?_set_self (props : Props) (n : String) (v : Value) :
    (props.set n v).get? n = some v := by
  simp [get?_set]

theorem get?_set_of_ne {props : Props} {n m : String} (v : Value) (h : m ≠ n) :
    (props.set n v).get? m = props.get? m := by
  simp [get?_set, h]

end RestConfig.Props
