import RestConfig.Value.Text
import RestConfig.Failure

/-!
# Instants

An instant is a whole number of seconds since 1970-01-01T00:00:00 UTC and a number of
microseconds below a million. A time given as a binary64 number of seconds is split into
its whole part (toward zero) and its fraction; the fraction times a million is rounded to
the nearest binary64 number and then to the nearest integer, ties to even, and a result
outside `[0, 10 ^ 6)` moves one second. Seconds must fit a signed 64-bit count.

An instant is written as `YYYY-MM-DDTHH:MM:SS.mmmZ` on the proleptic Gregorian calendar,
its microseconds cut to milliseconds; only the years 1 to 9999 can be written.
-/

namespace RestConfig

/-- A moment, as seconds since the epoch and the microseconds past that second. -/
structure Instant where
  seconds : Int
  micros : Nat
  deriving DecidableEq, Inhabited

namespace Instant

def daySeconds : Int := 86400

def outOfRange : Failure := .tooLarge "timestamp out of range for platform time_t"

def fits (s : Int) : Bool := decide (-9223372036854775808 ≤ s ∧ s < 9223372036854775808)

def roundScaled (m : Int) (q : Int) : Int :=
  let (num, den) := scaleByTwo m.natAbs q
  let r : Int := roundHalfEven num den
  if m < 0 then -r else r

def ofBinary64 (x : Binary64) : Except Failure Instant :=
  if x.isNaN then .error (.badArgument "Invalid value NaN (not a number)")
  else match x.toExtended with
    | .finite m q =>
      -- whole part toward zero and the exact fraction `frac / 2 ^ k`
      let k := (-q).toNat
      let whole : Int := if 0 ≤ q then m * Int.pow 2 q.toNat else m.tdiv (Int.pow 2 k)
      let frac : Int := if 0 ≤ q then 0 else m - whole * Int.pow 2 k
      let scaled := Binary64.ofRatio (decide (frac < 0)) (frac.natAbs * 1000000) (Nat.pow 2 k)
      let micros : Int := match scaled.toExtended with
        | .finite m' q' => roundScaled m' q'
        | _ => 0
      let (whole, micros) :=
        if micros ≥ 1000000 then (whole + 1, micros - 1000000)
        else if micros < 0 then (whole - 1, micros + 1000000)
        else (whole, micros)
      if fits whole then .ok ⟨whole, micros.toNat⟩ else .error outOfRange
    | _ => .error outOfRange

def ofValue : Value → Except Failure Instant
  | .int n => if fits n then .ok ⟨n, 0⟩ else .error outOfRange
  | .bool b => .ok ⟨if b then 1 else 0, 0⟩
  | .float x => ofBinary64 x
  | v => .error (.wrongType ("'" ++ v.typeName ++ "' object cannot be interpreted as an integer"))

/-- The proleptic Gregorian date of a day count from 1970-01-01, as year, month, day. -/
def civil (days : Int) : Int × Nat × Nat :=
  let z := days + 719468
  let era := z / 146097
  let doe := z - era * 146097
  let yoe := (doe - doe / 1460 + doe / 36524 - doe / 146096) / 365
  let doy := doe - (365 * yoe + yoe / 4 - yoe / 100)
  let mp := (5 * doy + 2) / 153
  let day := doy - (153 * mp + 2) / 5 + 1
  let month := if mp < 10 then mp + 3 else mp - 9
  let year := yoe + era * 400 + (if month ≤ 2 then 1 else 0)
  (year, month.toNat, day.toNat)

def padded (n width : Nat) : String :=
  let ds := Nat.toDigits 10 n
  String.ofList (List.replicate (width - ds.length) '0' ++ ds)

def iso (t : Instant) : Except Failure String :=
  let days := t.seconds / daySeconds
  let rest := (t.seconds % daySeconds).toNat
  let (year, month, day) := civil days
  if year - 1900 < -2147483648 ∨ year - 1900 ≥ 2147483648 then
    .error (.systemLimit "[Errno 75] Value too large for defined data type")
  else if year < 1 ∨ year > 9999 then
    .error (.badArgument ("year " ++ toString year ++ " is out of range"))
  else
    .ok (padded year.toNat 4 ++ "-" ++ padded month 2 ++ "-" ++ padded day 2 ++ "T" ++
      padded (rest / 3600) 2 ++ ":" ++ padded (rest / 60 % 60) 2 ++ ":" ++
      padded (rest % 60) 2 ++ "." ++ padded (t.micros / 1000) 3 ++ "Z")

def isoOfValue (v : Value) : Except Failure String := ofValue v >>= iso

example : civil 0 = (1970, 1, 1) := by decide
example : civil (-1) = (1969, 12, 31) := by decide

end Instant

end RestConfig
