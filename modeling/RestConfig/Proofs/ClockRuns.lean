import Mathlib
import RestConfig.Clock

/-!
# Runs of the test clock

A test drives the clock by a sequence of `sleep` and `advance` calls. A call that asks to move
backwards fails, and the test catches the failure and goes on with the same clock; any other
call moves the clock forward by its milliseconds. So after every run the clock reads its start
plus the milliseconds of the accepted calls, in nanoseconds and in whole milliseconds alike,
and neither reading ever goes down along a run (`readings_follow_accepted_calls`).
-/

namespace RestConfig.Clock

/-- A call a test makes on the clock. -/
inductive Call where
  | sleep (ms : Int)
  | advance (ms : Int)
  deriving DecidableEq, Repr

/-- The milliseconds a call asks the clock to move by. -/
def Call.ms : Call → Int
  | .sleep ms | .advance ms => ms

/-- Makes a call on the clock. -/
def call (c : Clock) : Call → Except Failure Clock
  | .sleep ms => c.sleep ms
  | .advance ms => c.advance ms

/-- The clock after a call: where the call moved it, or where it was when the call failed and
its failure was caught. -/
def afterCall (c : Clock) (k : Call) : Clock :=
  match c.call k with
  | .ok moved => moved
  | .error _ => c

/-- The clock after a run of calls. -/
def afterCalls (c : Clock) (ks : List Call) : Clock := ks.foldl afterCall c

/-- The milliseconds the clock accepts to move by over a run: those of the calls that do not
ask to move back. -/
def acceptedMs (ks : List Call) : Int := ((ks.map Call.ms).filter (0 ≤ ·)).sum

/-! ## One call -/

section Step

variable {c : Clock} {k : Call} {ms : Int}

theorem nanoseconds_eq (c : Clock) : c.nanoseconds = c.nanos := rfl

theorem nanoseconds_mk (n : Nat) : (⟨n⟩ : Clock).nanoseconds = n := rfl

-- stated once, so that no proof leaves the kernel to unfold a product by a million
theorem nanosPerMilli_cast : (nanosPerMilli : Int) = 1000000 := rfl

theorem call_eq_advance (c : Clock) (k : Call) : c.call k = c.advance k.ms := by
  cases k <;> rfl

theorem advance_of_neg (h : ms < 0) :
    c.advance ms = .error (.badArgument "cannot move a clock backwards") := by
  simp [advance, h]

theorem advance_of_nonneg (h : 0 ≤ ms) :
    c.advance ms = .ok ⟨c.nanos + ms.toNat * nanosPerMilli⟩ := by
  simp [advance, Int.not_lt.mpr h]

theorem afterCall_of_neg (h : k.ms < 0) : c.afterCall k = c := by
  simp [afterCall, call_eq_advance, advance_of_neg h]

theorem afterCall_of_nonneg (h : 0 ≤ k.ms) :
    c.afterCall k = ⟨c.nanos + k.ms.toNat * nanosPerMilli⟩ := by
  simp [afterCall, call_eq_advance, advance_of_nonneg h]

@[simp] theorem acceptedMs_nil : acceptedMs [] = 0 := rfl

theorem acceptedMs_cons (k : Call) (ks : List Call) :
    acceptedMs (k :: ks) = (if 0 ≤ k.ms then k.ms else 0) + acceptedMs ks := by
  by_cases h : 0 ≤ k.ms <;> simp [acceptedMs, h]

theorem acceptedMs_nonneg (ks : List Call) : 0 ≤ acceptedMs ks :=
  List.sum_nonneg fun m mem => by simpa using (List.mem_filter.mp mem).2

theorem nanos_afterCall (c : Clock) (k : Call) :
    ((c.afterCall k).nanos : Int) = c.nanos + nanosPerMilli * acceptedMs [k] := by
  rw [acceptedMs_cons, acceptedMs_nil, Int.add_zero]
  by_cases h : 0 ≤ k.ms
  · rw [afterCall_of_nonneg h, if_pos h]
    push_cast
    rw [Int.toNat_of_nonneg h, Int.mul_comm]
  · rw [afterCall_of_neg (Int.not_le.mp h), if_neg h]
    simp

end Step

/-! ## Runs -/

theorem afterCalls_nil (c : Clock) : c.afterCalls [] = c := rfl

theorem afterCalls_cons (c : Clock) (k : Call) (ks : List Call) :
    c.afterCalls (k :: ks) = (c.afterCall k).afterCalls ks := rfl

theorem afterCalls_append (c : Clock) (ks ks' : List Call) :
    c.afterCalls (ks ++ ks') = (c.afterCalls ks).afterCalls ks' :=
  List.foldl_append

theorem afterCalls_accepted (c : Clock) (ks : List Call) :
    c.afterCalls (ks.filter (0 ≤ ·.ms)) = c.afterCalls ks := by
  induction ks generalizing c with
  | nil => rfl
  | cons k ks ih =>
    by_cases h : 0 ≤ k.ms
    · rw [List.filter_cons_of_pos (by simpa using h), afterCalls_cons, afterCalls_cons, ih]
    · rw [List.filter_cons_of_neg (by simpa using h), afterCalls_cons,
        afterCall_of_neg (Int.not_le.mp h), ih]

theorem nanos_afterCalls (c : Clock) (ks : List Call) :
    ((c.afterCalls ks).nanos : Int) = c.nanos + nanosPerMilli * acceptedMs ks := by
  induction ks generalizing c with
  | nil => simp [afterCalls_nil]
  | cons k ks ih =>
    rw [afterCalls_cons, ih, nanos_afterCall, acceptedMs_cons k ks, acceptedMs_cons k [],
      acceptedMs_nil, Int.add_zero]
    ring

theorem nanos_le_afterCalls (c : Clock) (ks : List Call) : c.nanos ≤ (c.afterCalls ks).nanos := by
  have grows := nanos_afterCalls c ks
  have : 0 ≤ (nanosPerMilli : Int) * acceptedMs ks :=
    Int.mul_nonneg (by decide) (acceptedMs_nonneg ks)
  omega

theorem nanoseconds_mono (c : Clock) {ks ks' : List Call} (h : ks <+: ks') :
    (c.afterCalls ks).nanoseconds ≤ (c.afterCalls ks').nanoseconds := by
  obtain ⟨later, rfl⟩ := h
  rw [afterCalls_append]
  exact nanos_le_afterCalls _ later

/-! ## Starting the clock -/

theorem start_of_neg {s : Int} (h : s < 0) :
    start s = .error (.badArgument "start_ms must be >= 0") := by
  simp [start, h]

theorem start_of_nonneg {s : Int} (h : 0 ≤ s) : start s = .ok ⟨s.toNat * nanosPerMilli⟩ := by
  simp [start, Int.not_lt.mpr h]

theorem nanos_afterCalls_start {s : Int} (h : 0 ≤ s) (ks : List Call) :
    (((⟨s.toNat * nanosPerMilli⟩ : Clock).afterCalls ks).nanos : Int) =
      nanosPerMilli * (s + acceptedMs ks) := by
  rw [nanos_afterCalls]
  push_cast
  rw [Int.toNat_of_nonneg h]
  ring

theorem milliseconds_eq_of_nanos {c : Clock} {n : Int} (h : (c.nanos : Int) = nanosPerMilli * n) :
    (c.milliseconds : Int) = n := by
  have pos : (0 : Int) < nanosPerMilli := by decide
  rw [milliseconds, Int.natCast_ediv, h, Int.mul_ediv_cancel_left _ pos.ne']

/-- The test clock: a negative start fails; a call asking to move back fails and leaves the
clock where it was, so that a run goes as it would without its refused calls; any other call
moves it forward by its milliseconds. So at every point of a run from a start of `s`
milliseconds the clock reads `s` plus the accepted milliseconds, in nanoseconds and in whole
milliseconds, and both readings only go up along the run. -/
theorem readings_follow_accepted_calls :
    (∀ s : Int, s < 0 → start s = .error (.badArgument "start_ms must be >= 0")) ∧
    (∀ (c : Clock) (k : Call), k.ms < 0 →
      c.call k = .error (.badArgument "cannot move a clock backwards") ∧ c.afterCall k = c) ∧
    (∀ (c : Clock) (ks : List Call), c.afterCalls (ks.filter (0 ≤ ·.ms)) = c.afterCalls ks) ∧
    (∀ (c : Clock) (k : Call), 0 ≤ k.ms → ∃ moved, c.call k = .ok moved ∧
      (moved.nanoseconds : Int) = c.nanoseconds + k.ms * 1000000) ∧
    ∀ s : Int, 0 ≤ s → ∃ c, start s = .ok c ∧
      (∀ ks, ((c.afterCalls ks).nanoseconds : Int) = 1000000 * (s + acceptedMs ks) ∧
        (c.afterCalls ks).milliseconds = (c.afterCalls ks).nanoseconds / 1000000 ∧
        ((c.afterCalls ks).milliseconds : Int) = s + acceptedMs ks) ∧
      ∀ ks ks', ks <+: ks' →
        (c.afterCalls ks).nanoseconds ≤ (c.afterCalls ks').nanoseconds ∧
        (c.afterCalls ks).milliseconds ≤ (c.afterCalls ks').milliseconds := by
  refine ⟨fun s h => start_of_neg h, fun c k h => ?refused, afterCalls_accepted,
    fun c k h => ?moved, ?run⟩
  case refused =>
    exact ⟨by rw [call_eq_advance, advance_of_neg h], afterCall_of_neg h⟩
  case moved =>
    refine ⟨_, by rw [call_eq_advance, advance_of_nonneg h], ?_⟩
    rw [nanoseconds_mk, nanoseconds_eq, Nat.cast_add, Nat.cast_mul, Int.toNat_of_nonneg h,
      nanosPerMilli_cast]
  case run =>
    intro s h
    refine ⟨_, start_of_nonneg h, fun ks => ?_, fun ks ks' pre => ?_⟩
    · have reads := nanos_afterCalls_start h ks
      exact ⟨reads, rfl, milliseconds_eq_of_nanos reads⟩
    · have grows := nanoseconds_mono ⟨s.toNat * nanosPerMilli⟩ pre
      exact ⟨grows, Nat.div_le_div_right grows⟩

/- From one second, a sleep of a quarter second and a refused step back. -/
example : ((⟨1000000000⟩ : Clock).afterCalls [.sleep 250, .advance (-1)]).nanoseconds =
    1250000000 := by
  decide

end RestConfig.Clock
