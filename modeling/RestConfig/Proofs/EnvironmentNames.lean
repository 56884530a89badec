import RestConfig.Source.Environment
import Mathlib.Data.List.SplitBy

/-!
# Variable names that come back

A property has a variable name when decoding the encoding of its name gives the name back.
The decoder reads a run of `n` underscores greedily: a dash for every three, then a low line
for two left over or a dot for one. A run of separators of the name therefore comes back
exactly when it is some dashes and then at most one dot or low line; any other character
comes back exactly when lower-casing its upper case, one character at a time, gives it alone.
No case mapping writes a separator, so the runs of separators of the name and of the decoded
text line up, and the comparison is made run by run.

Main statement: `Environment.variableName_round_trip`.
-/

namespace RestConfig

namespace Environment

/-- The characters of a property name that the encoding writes as underscores. -/
def isSeparator (c : Char) : Bool := c == '-' || c == '_' || c == '.'

/-- Two characters that are both separators or both not. -/
def sameSide (a b : Char) : Bool := isSeparator a == isSeparator b

theorem toNat_of_ofNat_eq {n : Nat} {c : Char} (hc : c ≠ '\x00') (h : Char.ofNat n = c) :
    n = c.toNat := by
  by_cases valid : n.isValidChar
  · rw [Char.ofNat, dif_pos valid] at h
    subst h
    rfl
  · rw [Char.ofNat, dif_neg valid] at h
    exact absurd h.symm hc

theorem isSeparator_ofNat {n : Nat} (h : isSeparator (Char.ofNat n) = true) :
    n = '-'.toNat ∨ n = '_'.toNat ∨ n = '.'.toNat := by
  simp only [isSeparator, Bool.or_eq_true, beq_iff_eq] at h
  rcases h with (dash | low) | dot
  · exact .inl (toNat_of_ofNat_eq (by decide) dash)
  · exact .inr (.inl (toNat_of_ofNat_eq (by decide) low))
  · exact .inr (.inr (toNat_of_ofNat_eq (by decide) dot))

end Environment

namespace Text

open Environment

/-- Whether a run maps some code onto `t`. -/
def CaseRun.reaches (r : CaseRun) (t : Nat) : Bool :=
  decide ((r.first : Int) + r.shift ≤ t ∧ (t : Int) ≤ r.last + r.shift)

/-- Whether a case table maps no character to nothing and writes no separator: its special
mappings are non-empty and free of separators, and no run maps a code onto one. -/
def separatorFree (runs : List CaseRun) (special : List (Nat × List Nat)) : Bool :=
  (special.all fun p => !p.2.isEmpty && p.2.all fun n => !isSeparator (Char.ofNat n)) &&
    runs.all fun r => ['-', '_', '.'].all fun c => !r.reaches c.toNat

theorem separatorFree_special {runs : List CaseRun} {special : List (Nat × List Nat)}
    (free : separatorFree runs special = true) {p : Nat × List Nat} (hp : p ∈ special) :
    p.2 ≠ [] ∧ ∀ n ∈ p.2, isSeparator (Char.ofNat n) = false := by
  simp only [separatorFree, Bool.and_eq_true, List.all_eq_true, Bool.not_eq_eq_eq_not,
    Bool.not_true, List.isEmpty_eq_false_iff] at free
  exact free.1 p hp

theorem separatorFree_run {runs : List CaseRun} {special : List (Nat × List Nat)}
    (free : separatorFree runs special = true) {r : CaseRun} (hr : r ∈ runs) :
    ∀ c ∈ ['-', '_', '.'], r.reaches c.toNat = false := by
  simp only [separatorFree, Bool.and_eq_true, List.all_eq_true, Bool.not_eq_eq_eq_not,
    Bool.not_true] at free
  exact free.2 r hr

theorem CaseRun.not_separator {r : CaseRun}
    (miss : ∀ c ∈ ['-', '_', '.'], r.reaches c.toNat = false) {n : Nat} (h : r.holds n = true) :
    isSeparator (Char.ofNat (n + r.shift).toNat) = false := by
  simp only [CaseRun.holds, Bool.and_eq_true, decide_eq_true_eq] at h
  simp only [List.mem_cons, List.not_mem_nil, or_false, forall_eq_or_imp, forall_eq,
    CaseRun.reaches, decide_eq_false_iff_not] at miss
  cases sep : isSeparator (Char.ofNat (n + r.shift).toNat) with
  | false => rfl
  | true =>
    have codes : '-'.toNat = 45 ∧ '_'.toNat = 95 ∧ '.'.toNat = 46 := ⟨rfl, rfl, rfl⟩
    rcases isSeparator_ofNat sep with code | code | code <;> omega

theorem mapCase_ne_nil {runs : List CaseRun} {special : List (Nat × List Nat)}
    (free : separatorFree runs special = true) (c : Char) : mapCase runs special c ≠ [] := by
  unfold mapCase
  split
  · rename_i k cs found
    simpa using (separatorFree_special free (List.mem_of_find?_eq_some found)).1
  · split <;> simp

theorem mapCase_not_separator {runs : List CaseRun} {special : List (Nat × List Nat)}
    (free : separatorFree runs special = true) {c : Char} (hc : isSeparator c = false) :
    ∀ d ∈ mapCase runs special c, isSeparator d = false := by
  unfold mapCase
  split
  · rename_i k cs found
    intro d hd
    obtain ⟨n, hn, rfl⟩ := List.mem_map.mp hd
    exact (separatorFree_special free (List.mem_of_find?_eq_some found)).2 n hn
  · split
    · rename_i r found
      have holds := List.find?_some found
      intro d hd
      rw [List.mem_singleton.mp hd]
      exact CaseRun.not_separator (separatorFree_run free (List.mem_of_find?_eq_some found)) holds
    · intro d hd
      rw [List.mem_singleton.mp hd]
      exact hc

theorem upper_separatorFree : separatorFree upperRuns upperSpecial = true := by decide +kernel

theorem lower_separatorFree : separatorFree lowerRuns lowerSpecial = true := by decide +kernel

/-- A character upper-cased, then lower-cased one character at a time. -/
def recase (c : Char) : List Char := (upperChar c).flatMap lowerChar

theorem upperChar_ne_nil (c : Char) : upperChar c ≠ [] := mapCase_ne_nil upper_separatorFree c

theorem upperChar_not_separator {c : Char} (hc : isSeparator c = false) :
    ∀ d ∈ upperChar c, isSeparator d = false :=
  mapCase_not_separator upper_separatorFree hc

theorem upperChar_ne_underscore {c : Char} (hc : isSeparator c = false) :
    ∀ d ∈ upperChar c, d ≠ '_' := by
  intro d hd underscore
  have plain := upperChar_not_separator hc d hd
  simp [underscore, isSeparator] at plain

theorem recase_ne_nil (c : Char) : recase c ≠ [] := by
  obtain ⟨d, hd⟩ := List.exists_mem_of_ne_nil _ (upperChar_ne_nil c)
  simp only [recase, ne_eq, List.flatMap_eq_nil_iff, not_forall]
  exact ⟨d, hd, mapCase_ne_nil lower_separatorFree d⟩

theorem recase_not_separator {c : Char} (hc : isSeparator c = false) :
    ∀ d ∈ recase c, isSeparator d = false := by
  intro e he
  obtain ⟨d, hd, he⟩ := List.mem_flatMap.mp he
  exact mapCase_not_separator lower_separatorFree (upperChar_not_separator hc d hd) e he

end Text

namespace Environment

open Text

/-! ### Decoding runs of underscores and plain characters -/

/-- The characters a run of `n` underscores decodes to. -/
def runChars (n : Nat) : List Char :=
  List.replicate (n / 3) '-' ++ if n % 3 = 2 then ['_'] else if n % 3 = 1 then ['.'] else []

/-- Zero or more dashes followed by at most one dot or low line. -/
def DashesThenMark (run : List Char) : Prop :=
  ∃ k mark, run = List.replicate k '-' ++ mark ∧ (mark = [] ∨ mark = ['.'] ∨ mark = ['_'])

theorem runChars_add_three (n : Nat) : runChars (n + 3) = '-' :: runChars n := by
  have quotient : (n + 3) / 3 = n / 3 + 1 := by omega
  have remainder : (n + 3) % 3 = n % 3 := by omega
  simp only [runChars, quotient, remainder, List.replicate_succ, List.cons_append]

theorem propertyChars_underscores :
    ∀ (n : Nat) {rest : List Char}, (∀ c ∈ rest.head?, c ≠ '_') →
    propertyChars (List.replicate n '_' ++ rest) = runChars n ++ propertyChars rest
  | 0, _, _ => rfl
  | 1, rest, h => by
    have single : propertyChars ('_' :: rest) = '.' :: propertyChars rest :=
      propertyChars.eq_3 rest (fun _ eq => by simp [eq] at h) (fun _ eq => by simp [eq] at h)
    simpa [runChars] using single
  | 2, rest, h => by
    have double : propertyChars ('_' :: '_' :: rest) = '_' :: propertyChars rest :=
      propertyChars.eq_2 rest (fun _ eq => by simp [eq] at h)
    simpa [runChars] using double
  | n + 3, rest, h => by
    rw [runChars_add_three, List.replicate_succ, List.replicate_succ, List.replicate_succ]
    simp only [List.cons_append, propertyChars.eq_1, propertyChars_underscores n h]

theorem propertyChars_plain_append {ds : List Char} (h : ∀ d ∈ ds, d ≠ '_')
    (rest : List Char) :
    propertyChars (ds ++ rest) = ds.flatMap lowerChar ++ propertyChars rest := by
  induction ds with
  | nil => rfl
  | cons d ds ih =>
    have hd : d ≠ '_' := h d List.mem_cons_self
    rw [List.cons_append, propertyChars.eq_4 d _ (fun _ eq => absurd eq hd)
      (fun _ eq => absurd eq hd) hd, ih fun d' mem => h d' (List.mem_cons_of_mem d mem)]
    simp

/-! ### The encoding -/

/-- The variable name of a property name after the lead: each character encoded, the whole
upper-cased. -/
def encoded (cs : List Char) : List Char := (cs.flatMap encodeChar).flatMap upperChar

theorem encoded_append (a b : List Char) : encoded (a ++ b) = encoded a ++ encoded b := by
  simp [encoded]

theorem encodeChar_plain {c : Char} (hc : isSeparator c = false) : encodeChar c = [c] := by
  unfold encodeChar
  split <;> simp_all [isSeparator]

theorem encoded_plain {cs : List Char} (h : ∀ c ∈ cs, isSeparator c = false) :
    encoded cs = cs.flatMap upperChar := by
  induction cs with
  | nil => rfl
  | cons c cs ih =>
    rw [← List.singleton_append, encoded_append,
      ih fun c' mem => h c' (List.mem_cons_of_mem c mem)]
    simp [encoded, encodeChar_plain (h c List.mem_cons_self)]

theorem encoded_separators {cs : List Char} (h : ∀ c ∈ cs, isSeparator c = true) :
    encoded cs = List.replicate (encoded cs).length '_' := by
  refine List.eq_replicate_iff.mpr ⟨rfl, fun u mem => ?_⟩
  obtain ⟨w, hw, hu⟩ := List.mem_flatMap.mp mem
  obtain ⟨c, hc, hw⟩ := List.mem_flatMap.mp hw
  have low : w = '_' := by
    have sep := h c hc
    simp only [isSeparator, Bool.or_eq_true, beq_iff_eq] at sep
    rcases sep with (rfl | rfl) | rfl <;> simp_all [encodeChar]
  subst low
  have same : upperChar '_' = ['_'] := by decide +kernel
  simpa [same] using hu

theorem encoded_ne_nil {cs : List Char} (h : cs ≠ []) : encoded cs ≠ [] := by
  obtain ⟨c, rest, rfl⟩ := List.exists_cons_of_ne_nil h
  have first : encodeChar c ≠ [] := by
    unfold encodeChar
    split <;> simp
  obtain ⟨w, hw⟩ := List.exists_mem_of_ne_nil _ first
  simp only [encoded, List.flatMap_cons, ne_eq, List.flatMap_eq_nil_iff, List.mem_append,
    not_forall]
  exact ⟨w, .inl hw, upperChar_ne_nil w⟩

theorem encoded_head {cs : List Char} (h : ∀ c ∈ cs.head?, isSeparator c = false) :
    ∀ u ∈ (encoded cs).head?, u ≠ '_' := by
  cases cs with
  | nil => simp [encoded]
  | cons c rest =>
    have hc : isSeparator c = false := h c rfl
    rw [← List.singleton_append, encoded_append, encoded_plain (by simpa using hc),
      List.flatMap_singleton, List.head?_append_of_ne_nil _ (upperChar_ne_nil c)]
    exact fun u hu => upperChar_ne_underscore hc u (List.mem_of_mem_head? hu)

/-! ### Runs of one side -/

/-- Runs of characters, each non-empty and on one side (separators or not), the side
changing from each run to the next; `prev` is the side of the run before the first. -/
inductive Alternating : Option Bool → List (List Char) → Prop
  | nil {prev : Option Bool} : Alternating prev []
  | cons {prev : Option Bool} {g : List Char} {G : List (List Char)} (side : Bool)
      (nonempty : g ≠ []) (uniform : ∀ c ∈ g, isSeparator c = side)
      (turns : prev ≠ some side) (rest : Alternating (some side) G) : Alternating prev (g :: G)

theorem Alternating.head_side {b : Bool} {G : List (List Char)} (h : Alternating (some b) G) :
    ∀ c ∈ G.flatten.head?, isSeparator c = !b := by
  cases h with
  | nil => simp
  | cons side nonempty uniform turns rest =>
    intro c hc
    rw [List.flatten_cons, List.head?_append_of_ne_nil _ nonempty] at hc
    have on : isSeparator c = side := uniform c (List.mem_of_mem_head? hc)
    cases b <;> cases side <;> simp_all

theorem Alternating.head_other {b : Bool} {G : List (List Char)} (h : Alternating (some b) G) :
    ∀ c ∈ G.flatten.head?, ¬ isSeparator c = b := by
  intro c hc
  simp [h.head_side c hc]

theorem Alternating.map {F : List Char → List Char}
    (hF : ∀ g b, g ≠ [] → (∀ c ∈ g, isSeparator c = b) →
      F g ≠ [] ∧ ∀ c ∈ F g, isSeparator c = b)
    {prev : Option Bool} {G : List (List Char)} (h : Alternating prev G) :
    Alternating prev (G.map F) := by
  induction h with
  | nil => exact .nil
  | cons side nonempty uniform turns _ ih =>
    obtain ⟨ne, on⟩ := hF _ side nonempty uniform
    exact .cons side ne on turns ih

theorem Alternating.mem {prev : Option Bool} {G : List (List Char)} (h : Alternating prev G)
    {g : List Char} (hg : g ∈ G) : g ≠ [] ∧ ∃ b, ∀ c ∈ g, isSeparator c = b := by
  induction h with
  | nil => simp at hg
  | cons side nonempty uniform _ _ ih =>
    rcases List.mem_cons.mp hg with rfl | later
    · exact ⟨nonempty, side, uniform⟩
    · exact ih later

theorem side_of_isChain {a : Char} {l : List Char}
    (h : (a :: l).IsChain fun x y => sameSide x y = true) :
    ∀ c ∈ a :: l, isSeparator c = isSeparator a := by
  induction l generalizing a with
  | nil => simp
  | cons b l ih =>
    obtain ⟨same, chain⟩ := List.isChain_cons_cons.mp h
    have ab : isSeparator b = isSeparator a := (beq_iff_eq.mp same).symm
    intro c hc
    rcases List.mem_cons.mp hc with rfl | later
    · rfl
    · rw [ih chain c later, ab]

theorem alternating_of_groups : ∀ {G : List (List Char)} {prev : Option Bool}, [] ∉ G →
    (∀ m ∈ G, m.IsChain fun x y => sameSide x y = true) →
    G.IsChain (fun a b => ∃ ha hb, sameSide (a.getLast ha) (b.head hb) = false) →
    (∀ m ∈ G.head?, ∀ hm : m ≠ [], prev ≠ some (isSeparator (m.head hm))) →
    Alternating prev G
  | [], _, _, _, _, _ => .nil
  | [] :: _, _, hn, _, _, _ => absurd List.mem_cons_self hn
  | (a :: l) :: G, prev, hn, hc, hj, hp => by
    have uniform := side_of_isChain (hc _ List.mem_cons_self)
    refine .cons (isSeparator a) (List.cons_ne_nil a l) uniform (hp _ rfl (List.cons_ne_nil a l)) ?_
    refine alternating_of_groups (fun mem => hn (List.mem_cons_of_mem _ mem))
      (fun m mem => hc m (List.mem_cons_of_mem _ mem)) hj.tail ?_
    intro m hm ne turns
    cases G with
    | nil => simp at hm
    | cons m' G =>
      obtain rfl : m' = m := Option.some.inj hm
      obtain ⟨_, _, differ⟩ := (List.isChain_cons_cons.mp hj).1
      have last := uniform _ (List.getLast_mem (List.cons_ne_nil a l))
      simp only [sameSide, beq_eq_false_iff_ne, ne_eq] at differ
      exact differ (by rw [last, Option.some.inj turns])

theorem alternating_splitBy (cs : List Char) : Alternating none (cs.splitBy sameSide) :=
  alternating_of_groups (List.nil_notMem_splitBy _ _)
    (fun _ mem => List.isChain_of_mem_splitBy mem) (List.isChain_getLast_head_splitBy _ _)
    (fun _ _ _ => by simp)

/-! ### Decoding run by run -/

/-- What decoding gives back for one run of a name: the characters its underscores stand for,
for a run of separators, and each character re-cased otherwise. -/
def decodeRun (g : List Char) : List Char :=
  if g.all isSeparator then runChars (encoded g).length else g.flatMap recase

theorem all_isSeparator {g : List Char} {b : Bool} (ne : g ≠ [])
    (uniform : ∀ c ∈ g, isSeparator c = b) : g.all isSeparator = b := by
  obtain ⟨c, hc⟩ := List.exists_mem_of_ne_nil _ ne
  cases b
  · simpa using ⟨c, hc, uniform c hc⟩
  · simpa using uniform

theorem runChars_separators (n : Nat) : ∀ c ∈ runChars n, isSeparator c = true := by
  intro c hc
  simp only [runChars, List.mem_append, List.mem_replicate] at hc
  rcases hc with ⟨-, rfl⟩ | tail
  · rfl
  · split_ifs at tail <;> simp_all [isSeparator]

theorem runChars_ne_nil {n : Nat} (h : n ≠ 0) : runChars n ≠ [] := by
  simp only [runChars, ne_eq, List.append_eq_nil_iff, List.replicate_eq_nil_iff, not_and]
  intro none
  split_ifs <;> first | omega | simp

theorem decodeRun_side {g : List Char} {b : Bool} (ne : g ≠ [])
    (uniform : ∀ c ∈ g, isSeparator c = b) :
    decodeRun g ≠ [] ∧ ∀ c ∈ decodeRun g, isSeparator c = b := by
  unfold decodeRun
  rw [all_isSeparator ne uniform]
  cases b with
  | true =>
    have long : (encoded g).length ≠ 0 := by simpa using encoded_ne_nil ne
    exact ⟨runChars_ne_nil long, runChars_separators _⟩
  | false =>
    obtain ⟨c, hc⟩ := List.exists_mem_of_ne_nil _ ne
    obtain ⟨d, hd⟩ := List.exists_mem_of_ne_nil _ (recase_ne_nil c)
    refine ⟨List.ne_nil_of_mem (List.mem_flatMap.mpr ⟨c, hc, hd⟩), fun e he => ?_⟩
    obtain ⟨c', hc', he⟩ := List.mem_flatMap.mp he
    exact recase_not_separator (uniform c' hc') e he

theorem propertyChars_encoded {prev : Option Bool} {G : List (List Char)}
    (h : Alternating prev G) : propertyChars (encoded G.flatten) = (G.map decodeRun).flatten := by
  induction h with
  | nil => rfl
  | @cons prev g G side nonempty uniform turns rest ih =>
    have next := rest.head_side
    rw [List.flatten_cons, encoded_append, List.map_cons, List.flatten_cons, ← ih]
    unfold decodeRun
    rw [all_isSeparator nonempty uniform]
    cases side with
    | true =>
      rw [if_pos rfl]
      conv_lhs => rw [encoded_separators uniform]
      exact propertyChars_underscores _ (encoded_head next)
    | false =>
      rw [encoded_plain uniform, propertyChars_plain_append, List.flatMap_assoc]
      · rfl
      · intro u hu
        obtain ⟨c, hc, hu⟩ := List.mem_flatMap.mp hu
        exact upperChar_ne_underscore (uniform c hc) u hu

theorem append_eq_append_iff_of_sides {p : Char → Prop} {xs ys us vs : List Char}
    (hx : ∀ x ∈ xs, p x) (hy : ∀ y ∈ ys, p y) (hu : ∀ u ∈ us.head?, ¬ p u)
    (hv : ∀ v ∈ vs.head?, ¬ p v) : xs ++ us = ys ++ vs ↔ xs = ys ∧ us = vs := by
  induction xs generalizing ys with
  | nil =>
    cases ys with
    | nil => simp
    | cons y ys =>
      simp only [List.nil_append, List.cons_append, List.nil_eq, reduceCtorEq, false_and,
        iff_false]
      rintro rfl
      exact hu y rfl (hy y List.mem_cons_self)
  | cons x xs ih =>
    cases ys with
    | nil =>
      simp only [List.cons_append, List.nil_append, reduceCtorEq, false_and, iff_false]
      intro eq
      exact hv x (by simp [← eq]) (hx x List.mem_cons_self)
    | cons y ys =>
      simp only [List.cons_append, List.cons.injEq, and_assoc]
      rw [ih (fun x' mem => hx x' (List.mem_cons_of_mem x mem))
        (fun y' mem => hy y' (List.mem_cons_of_mem y mem))]

theorem flatten_decodeRun_eq_iff {prev : Option Bool} {G : List (List Char)}
    (h : Alternating prev G) :
    (G.map decodeRun).flatten = G.flatten ↔ ∀ g ∈ G, decodeRun g = g := by
  induction h with
  | nil => simp
  | @cons prev g G side nonempty uniform turns rest ih =>
    have decoded := rest.map fun _ _ => decodeRun_side
    rw [List.map_cons, List.flatten_cons, List.flatten_cons,
      append_eq_append_iff_of_sides (decodeRun_side nonempty uniform).2 uniform
        decoded.head_other rest.head_other, ih]
    simp

theorem length_le_length_flatMap_recase (g : List Char) :
    g.length ≤ (g.flatMap recase).length := by
  induction g with
  | nil => simp
  | cons c g ih =>
    have := List.length_pos_of_ne_nil (recase_ne_nil c)
    simp only [List.flatMap_cons, List.length_append, List.length_cons]
    omega

theorem flatMap_recase_eq_self_iff {g : List Char} :
    g.flatMap recase = g ↔ ∀ c ∈ g, recase c = [c] := by
  induction g with
  | nil => simp
  | cons c g ih =>
    rw [List.flatMap_cons, List.forall_mem_cons, ← ih]
    constructor
    · intro eq
      have lengths := congrArg List.length eq
      simp only [List.length_append, List.length_cons] at lengths
      have one : (recase c).length = 1 := by
        have := List.length_pos_of_ne_nil (recase_ne_nil c)
        have := length_le_length_flatMap_recase g
        omega
      obtain ⟨d, hd⟩ := List.length_eq_one_iff.mp one
      rw [hd, List.singleton_append, List.cons.injEq] at eq
      exact ⟨eq.1 ▸ hd, eq.2⟩
    · rintro ⟨hc, hg⟩
      rw [hc, hg, List.singleton_append]

theorem length_encoded_dashes (k : Nat) (tail : List Char) :
    (encoded (List.replicate k '-' ++ tail)).length = 3 * k + (encoded tail).length := by
  induction k with
  | zero => simp
  | succ k ih =>
    have dash : encoded ['-'] = ['_', '_', '_'] := by decide +kernel
    rw [List.replicate_succ, List.cons_append, ← List.singleton_append, encoded_append,
      List.length_append, ih, dash]
    simp only [List.length_cons, List.length_nil]
    omega

theorem runChars_three_mul_add (k n : Nat) :
    runChars (3 * k + n) = List.replicate k '-' ++ runChars n := by
  induction k with
  | zero => simp
  | succ k ih =>
    rw [show 3 * (k + 1) + n = (3 * k + n) + 3 by omega, runChars_add_three, ih]
    rfl

theorem runChars_shape (n : Nat) : DashesThenMark (runChars n) := by
  refine ⟨n / 3, _, rfl, ?_⟩
  split_ifs <;> simp

theorem runChars_encoded_eq_self_iff (g : List Char) :
    runChars (encoded g).length = g ↔ DashesThenMark g := by
  constructor
  · intro eq
    rw [← eq]
    exact runChars_shape _
  · rintro ⟨k, mark, rfl, shape⟩
    rw [length_encoded_dashes, runChars_three_mul_add]
    congr 1
    rcases shape with rfl | rfl | rfl <;> decide +kernel

/-- Each run of alternating runs comes back exactly when its separator runs are some dashes
and at most one mark after them and its other characters re-case to themselves. -/
theorem decodeRun_eq_self_iff {prev : Option Bool} {G : List (List Char)} (h : Alternating prev G) :
    (∀ g ∈ G, decodeRun g = g) ↔
      (∀ run ∈ G, run.all isSeparator → DashesThenMark run) ∧
      (∀ c ∈ G.flatten, isSeparator c = false → recase c = [c]) := by
  constructor
  · intro back
    refine ⟨fun run mem all => ?_, fun c hc plain => ?_⟩
    · have := back run mem
      rw [decodeRun, if_pos all] at this
      exact (runChars_encoded_eq_self_iff run).mp this
    · obtain ⟨g, hg, hcg⟩ := List.mem_flatten.mp hc
      obtain ⟨ne, b, uniform⟩ := h.mem hg
      have side : b = false := (uniform c hcg).symm.trans plain
      subst side
      have := back g hg
      rw [decodeRun, all_isSeparator ne uniform] at this
      exact flatMap_recase_eq_self_iff.mp this c hcg
  · rintro ⟨runs, chars⟩ g hg
    obtain ⟨ne, b, uniform⟩ := h.mem hg
    unfold decodeRun
    rw [all_isSeparator ne uniform]
    cases b with
    | true => exact (runChars_encoded_eq_self_iff g).mpr (runs g hg (all_isSeparator ne uniform))
    | false =>
      exact flatMap_recase_eq_self_iff.mpr fun c hc =>
        chars c (List.mem_flatten.mpr ⟨g, hg, hc⟩) (uniform c hc)

/-! ### The variable name and the properties read back -/

theorem ofList_eq_iff {cs : List Char} {s : String} : String.ofList cs = s ↔ cs = s.toList := by
  rw [← String.toList_inj, String.toList_ofList]

theorem variableName_eq (name lead : String) :
    variableName name lead =
      if propertyChars (encoded name.toList) = name.toList then
        .ok (lead ++ String.ofList (encoded name.toList))
      else .error (.badSource ("property " ++ Text.quote name ++
        " cannot be expressed as an env var name")) := by
  simp only [variableName, propertyName, Text.upper, String.toList_ofList, ofList_eq_iff]
  rfl

/-- A property name comes back from its encoding exactly when its maximal runs of separators
are some dashes and at most one mark and its other characters re-case to themselves. -/
theorem propertyChars_encoded_eq_self_iff (cs : List Char) :
    propertyChars (encoded cs) = cs ↔
      (∀ run ∈ cs.splitBy sameSide, run.all isSeparator → DashesThenMark run) ∧
      (∀ c ∈ cs, isSeparator c = false → recase c = [c]) := by
  have runs := alternating_splitBy cs
  have whole : (cs.splitBy sameSide).flatten = cs := List.flatten_splitBy _ _
  conv_lhs => rw [← whole, propertyChars_encoded runs, flatten_decodeRun_eq_iff runs]
  rw [decodeRun_eq_self_iff runs, whole]

theorem properties_single (lead e : String) (x : Value) (h : e ≠ "") :
    properties [(lead ++ e, x)] lead = [(propertyName e, x)] := by
  have prefixed : lead.toList.isPrefixOf (lead ++ e).toList = true := by
    rw [List.isPrefixOf_iff_prefix, String.toList_append]
    exact List.prefix_append _ _
  have longer : (lead ++ e).length > lead.length := by
    have : e.length ≠ 0 := by
      rw [← String.length_toList]
      simpa [String.toList_eq_nil_iff] using h
    rw [String.length_append]
    omega
  have rest : (lead ++ e).toList.drop lead.length = e.toList := by
    rw [String.toList_append]
    exact List.drop_left' String.length_toList
  simp only [properties, List.filter_cons, List.filter_nil, prefixed, longer, decide_true,
    Bool.and_self, if_true, List.mergeSort_singleton, List.foldl_cons, List.foldl_nil, List.any_nil,
    Bool.false_eq_true, if_false, List.nil_append, rest, String.ofList_toList]

/-- The environment-name codec is exactly invertible on a characterised set of names: a name
has a variable name exactly when each of its maximal runs of separators is some dashes
followed by at most one dot or low line and each of its other characters re-cases to itself;
otherwise encoding it is a load error; and the variable name of a non-empty name decodes back
to it, as a property name and as the one property its variable holds. -/
theorem variableName_round_trip :
    (∀ name lead : String, (∃ v, variableName name lead = .ok v) ↔
      (∀ run ∈ name.toList.splitBy sameSide, run.all isSeparator → DashesThenMark run) ∧
      (∀ c ∈ name.toList, isSeparator c = false → (upperChar c).flatMap lowerChar = [c])) ∧
    (∀ (name lead : String) (f : Failure), variableName name lead = .error f →
      f.kind = "ConfigLoadError") ∧
    (∀ name lead v : String, name ≠ "" → variableName name lead = .ok v →
      ∃ e, v = lead ++ e ∧ propertyName e = name ∧
        ∀ x : Value, properties [(v, x)] lead = [(name, x)]) := by
  refine ⟨fun name lead => ?_, fun name lead f => ?_, fun name lead v named => ?_⟩
  · have back := propertyChars_encoded_eq_self_iff name.toList
    unfold recase at back
    rw [variableName_eq, ← back]
    split_ifs with comes <;> simp [comes]
  · rw [variableName_eq]
    split_ifs
    · simp
    · rintro ⟨⟩
      rfl
  · rw [variableName_eq]
    split_ifs with back
    · rintro ⟨⟩
      have decoded : propertyName (String.ofList (encoded name.toList)) = name := by
        rw [propertyName, String.toList_ofList, back, String.ofList_toList]
      have written : String.ofList (encoded name.toList) ≠ "" := by
        rw [ne_eq, ofList_eq_iff]
        exact encoded_ne_nil (by simpa [String.toList_eq_nil_iff] using named)
      refine ⟨_, rfl, decoded, fun x => ?_⟩
      rw [properties_single _ _ x written, decoded]
    · simp

/-- `my_key.x-y` is written `MY__KEY_X___Y` after the lead and read back from it. -/
theorem dotted_name_round_trips :
    variableName "my_key.x-y" "KAFKA_REST_" = .ok "KAFKA_REST_MY__KEY_X___Y" ∧
    properties [("KAFKA_REST_MY__KEY_X___Y", .str "v")] "KAFKA_REST_" =
      [("my_key.x-y", .str "v")] := by
  have written : variableName "my_key.x-y" "KAFKA_REST_" = .ok "KAFKA_REST_MY__KEY_X___Y" := rfl
  obtain ⟨-, -, -, back⟩ :=
    variableName_round_trip.2.2 "my_key.x-y" "KAFKA_REST_" _ (by decide) written
  exact ⟨written, back _⟩

end Environment

end RestConfig
