import Mathlib
import RestConfig.Proofs.TypedSettings
import RestConfig.Proofs.Rendering

/-!
# Rendered settings read back

Rendering writes a setting the way a properties file holds it, and reading that text as the
setting's kind gives the setting back, for every value a kind reads, be it a text or not.
A flag is written `true` or `false`; a whole number in decimal, within its kind's range; a
finite double as its shortest text, which reads back exactly; a text is already trimmed. A
list is written as its items joined by commas: items read from a text are trimmed and hold
no comma, so cutting at the commas finds them again. Items read from a list or a tuple hold
no comma only when the members' displays hold none, and a single item that trims to nothing
renders as the empty text, which reads as no item at all. Secrets are left out: they render
hidden.

Main statement: `Kind.read_render_of_read`.
-/

namespace RestConfig

open Text Reading

theorem Binary64.trim_text {x : Binary64} (fin : x.isFinite = true) : trim x.text = x.text := by
  obtain ⟨n, wf, chars, -⟩ := text_numeral fin
  rw [trim, chars, trimBlanks_eq_self (trimmed_of_forall fun c hc => (Numeral.plain_chars wf c hc).2),
    ← chars, String.ofList_toList]

/-- Items that read back from their rendering: each is trimmed and holds no comma, and they
are not the one empty item, whose rendering is the empty text. -/
def ItemsRenderBack (xs : List String) : Prop :=
  (∀ x ∈ xs, trim x = x ∧ ',' ∉ x.toList) ∧ xs ≠ [""]

theorem trimmed_of_trim_eq {x : String} (h : trim x = x) : Trimmed x.toList := by
  have back : trimBlanks x.toList = x.toList := by
    have chars := congrArg String.toList h
    rwa [trim, String.toList_ofList] at chars
  rw [← back]
  exact trimmed_trimBlanks _

theorem Kind.read_items_render {xs : List String} (h : ItemsRenderBack xs) :
    Kind.list.readCitable (.str (Setting.items xs).toValue.propertyText) = .ok (.items xs) := by
  obtain ⟨each, single⟩ := h
  have texts : (xs.map String.toList).map String.ofList = xs := by
    rw [List.map_map]
    conv => rhs; rw [← List.map_id xs]
    exact List.map_congr_left fun x _ => String.ofList_toList
  cases xs with
  | nil => rfl
  | cons x rest =>
    have ne : [','].intercalate ((x :: rest).map String.toList) ≠ [] := by
      cases rest with
      | nil =>
        have : x ≠ "" := fun empty => single (by rw [empty])
        simpa using this
      | cons y more => simp [List.intercalate_cons_cons]
    have trimmed : ∀ l ∈ (x :: rest).map String.toList, Trimmed l := by
      intro l hl
      obtain ⟨x', mem, rfl⟩ := List.mem_map.mp hl
      exact trimmed_of_trim_eq (each x' mem).1
    have comma : ∀ l ∈ (x :: rest).map String.toList, ',' ∉ l := by
      intro l hl
      obtain ⟨x', mem, rfl⟩ := List.mem_map.mp hl
      exact (each x' mem).2
    rw [← texts, Setting.propertyText_items, Kind.read_joined trimmed comma ne]

/-- Items read from the members of a list or a tuple render back when no member's display
holds a comma and they are not one member whose display trims to nothing. -/
theorem itemsRenderBack_of_members {vs : List Value} (comma : ∀ v ∈ vs, ',' ∉ v.display.toList)
    (single : ∀ v, vs = [v] → trim v.display ≠ "") :
    ItemsRenderBack (vs.map fun v => trim v.display) := by
  refine ⟨fun x hx => ?_, fun one => ?_⟩
  · obtain ⟨v, mem, rfl⟩ := List.mem_map.mp hx
    refine ⟨trim_trim _, fun inside => comma v mem ?_⟩
    rw [trim, String.toList_ofList] at inside
    exact mem_of_mem_trimBlanks inside
  · obtain ⟨v, rfl⟩ : ∃ v, vs = [v] := by
      cases vs with
      | nil => cases one
      | cons v rest => cases rest with
        | nil => exact ⟨v, rfl⟩
        | cons w more => simp at one
    exact single v rfl (by simpa using one)

theorem Kind.read_render_of_represents {k : Kind} {s : Setting} (hk : k ≠ .password)
    (hs : k.Represents s) (items : ∀ xs, s = .items xs → ItemsRenderBack xs) :
    k.readCitable (.str s.toValue.propertyText) = .ok s := by
  cases k <;> cases s <;> simp only [Kind.Represents] at hs
  case boolean.flag b => cases b <;> rfl
  case string.text t =>
    have shown : (Setting.text t).toValue.propertyText = t := rfl
    rw [shown]
    simp [Kind.readCitable, hs]
  case int.whole i | long.whole i =>
    rw [Setting.propertyText_whole]
    exact Kind.read_toString (by simp) ((Kind.bounds_iff_inRange _ _).mpr hs)
  case double.real x =>
    have shown : (Setting.real x).toValue.propertyText = x.text := rfl
    rw [shown]
    simp [Kind.readCitable, Binary64.trim_text hs, Binary64.readFloat?_text hs, hs]
  case list.items xs => exact Kind.read_items_render (items xs rfl)
  case password.secret => exact absurd rfl hk

theorem Kind.eq_list_of_read_items {k : Kind} {room : Nat} {raw : Value} {xs : List String}
    (h : k.read room raw = .ok (.items xs)) : k = .list := by
  have shaped := Kind.represents_of_read h
  cases k <;> simp only [Kind.Represents] at shaped
  rfl

/-- Rendering is a right inverse of reading. For every kind but password, whatever a value
reads as with some room, it renders, and its rendering reads as again with that room; for a
list read from a list or a tuple, provided no member's display holds a comma and the value is
not one member whose display trims to nothing. -/
theorem Kind.read_render_of_read {k : Kind} {room : Nat} {raw : Value} {s : Setting}
    (hk : k ≠ .password) (h : k.read room raw = .ok s)
    (members : k = .list → ∀ vs, raw = .list vs ∨ raw = .tuple vs →
      (∀ v ∈ vs, ',' ∉ v.display.toList) ∧ ∀ v, vs = [v] → trim v.display ≠ "") :
    ∃ text, s.render = .ok text ∧ k.read room (.str text) = .ok s := by
  refine ⟨_, Kind.render_of_read h, ?_⟩
  rw [Kind.read_text (Kind.room_pos_of_read h)]
  by_cases text : ∃ t, raw = .str t ∧ k = .list
  · obtain ⟨t, rfl, rfl⟩ := text
    exact Kind.read_list_render (Kind.readCitable_of_read h)
  apply Kind.read_render_of_represents hk (Kind.represents_of_read h)
  rintro xs rfl
  obtain rfl := Kind.eq_list_of_read_items h
  have read := Kind.readCitable_of_read h
  cases raw with
  | str t => exact absurd ⟨t, rfl, rfl⟩ text
  | list vs =>
    obtain ⟨comma, single⟩ := members rfl vs (.inl rfl)
    simp only [Kind.readCitable, Except.ok.injEq, Setting.items.injEq] at read
    exact read ▸ itemsRenderBack_of_members comma single
  | tuple vs =>
    obtain ⟨comma, single⟩ := members rfl vs (.inr rfl)
    simp only [Kind.readCitable, Except.ok.injEq, Setting.items.injEq] at read
    exact read ▸ itemsRenderBack_of_members comma single
  | _ => simp [Kind.readCitable] at read

/-- A tuple of a padded text and a number reads as two items, and their rendering reads as the
same two items. -/
theorem padded_tuple_renders_back :
    Kind.list ≠ .password ∧
      Kind.list.read 10 (.tuple [.str " a ", .int 5]) = .ok (.items ["a", "5"]) ∧
      ∃ text, (Setting.items ["a", "5"]).render = .ok text ∧
        Kind.list.read 10 (.str text) = .ok (.items ["a", "5"]) := by
  have read : Kind.list.read 10 (.tuple [.str " a ", .int 5]) = .ok (.items ["a", "5"]) := rfl
  refine ⟨by decide, read, Kind.read_render_of_read (by decide) read ?_⟩
  rintro - vs (same | same) <;> cases same
  refine ⟨by decide +kernel, fun v one => ?_⟩
  cases one

end RestConfig
