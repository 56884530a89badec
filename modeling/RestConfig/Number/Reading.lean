import RestConfig.Number.Binary64
import RestConfig.Text.Blank
import RestConfig.Text.Digit
import RestConfig.Text.Quoted

/-!
# Reading numerals

Numerals in configuration text are read the lenient way: any decimal digit of Unicode
stands for its ASCII digit, other non-ASCII blanks for a space, and the ASCII blanks
at both ends are skipped. Digits may be grouped by single underscores between two
digits. A decimal numeral has an optional sign, digits with an optional point (at least
one digit in all), and an optional exponent; the words `inf`, `infinity` and `nan` in any
case stand for the special numbers. An integer numeral has an optional sign and digits
only; one of more than 4300 digits is refused as too long.
-/

namespace RestConfig.Reading

open RestConfig.Text

def asciiForm (c : Char) : Char :=
  if c.toNat < 128 then c
  else if isBlank c then ' '
  else match digitValue? c with
    | some d => Char.ofNat (48 + d)
    | none => '?'

def asciiBlanks : List Char := [' ', '\t', '\n', '\x0b', '\x0c', '\r']

def numeralChars (s : String) : List Char :=
  dropAnyEnd asciiBlanks (dropAny asciiBlanks (s.toList.map asciiForm))

/-- Reads a run of digits grouped by single underscores between digits; the second
argument holds the digits read so far, most recent first. Answers the digits in order
and the rest of the input. -/
def digitRun : List Char → List Nat → List Nat × List Char
  | [], acc => (acc.reverse, [])
  | c :: cs, acc =>
    match asciiDigit? c with
    | some d => digitRun cs (d :: acc)
    | none =>
      if c = '_' ∧ acc ≠ [] then
        match cs with
        | d :: rest =>
          match asciiDigit? d with
          | some v => digitRun rest (v :: acc)
          | none => (acc.reverse, c :: cs)
        | [] => (acc.reverse, [c])
      else (acc.reverse, c :: cs)

def digitsValue (ds : List Nat) : Nat := ds.foldl (fun n d => 10 * n + d) 0

def readSign : List Char → Bool × List Char
  | '-' :: cs => (true, cs)
  | '+' :: cs => (false, cs)
  | cs => (false, cs)

/-- A decimal numeral: sign, digits and the power of ten that scales them. -/
structure Decimal where
  negative : Bool
  digits : Nat
  exponent : Int

/-- What a decimal numeral stands for. -/
inductive FloatNumeral where
  | nan
  | infinity (negative : Bool)
  | finite (d : Decimal)

def asciiLower (cs : List Char) : List Char := cs.map Char.toLower

def readExponent (cs : List Char) : Option Int :=
  let (neg, rest) := readSign cs
  match digitRun rest [] with
  | ([], _) => none
  | (ds, []) => some (if neg then -(digitsValue ds : Int) else digitsValue ds)
  | _ => none

def readFloatNumeral (cs : List Char) : Option FloatNumeral :=
  let (neg, rest) := readSign cs
  let word := asciiLower rest
  if word = "inf".toList ∨ word = "infinity".toList then some (.infinity neg)
  else if word = "nan".toList then some .nan
  else
    let (whole, afterWhole) := digitRun rest []
    let (frac, afterFrac) := match afterWhole with
      | '.' :: more => digitRun more []
      | more => ([], more)
    if whole.isEmpty ∧ frac.isEmpty then none
    else
      let mantissa := digitsValue (whole ++ frac)
      let scale : Int := -(frac.length : Int)
      let exp? : Option Int := match afterFrac with
        | [] => some 0
        | c :: more => if c = 'e' ∨ c = 'E' then readExponent more else none
      exp?.map fun e => .finite { negative := neg, digits := mantissa, exponent := e + scale }

/-- The binary64 number nearest to a decimal numeral. Numerals far outside the range
are settled by their length alone: above `10 ^ 310` they overflow, below `10 ^ -330` they
vanish. -/
def Decimal.toBinary64 (d : Decimal) : Binary64 :=
  if d.digits = 0 then Binary64.zero d.negative
  else
    let size : Int := (Nat.toDigits 10 d.digits).length + d.exponent
    if size > 310 then Binary64.infinity d.negative
    else if size < -330 then Binary64.zero d.negative
    else Binary64.ofRatio d.negative (d.digits * Nat.pow 10 d.exponent.toNat)
      (Nat.pow 10 (-d.exponent).toNat)

def FloatNumeral.toBinary64 : FloatNumeral → Binary64
  | .nan => Binary64.nan
  | .infinity neg => Binary64.infinity neg
  | .finite d => d.toBinary64

def readFloat? (s : String) : Option Binary64 :=
  (readFloatNumeral (numeralChars s)).map FloatNumeral.toBinary64

def integerDigitLimit : Nat := 4300

def writeLimitMessage : String :=
  "Exceeds the limit (" ++ toString integerDigitLimit ++
    " digits) for integer string conversion; use sys.set_int_max_str_digits() to increase the limit"

def tooManyDigitsMessage (count : Nat) : String :=
  "Exceeds the limit (" ++ toString integerDigitLimit ++
    " digits) for integer string conversion: value has " ++ toString count ++
    " digits; use sys.set_int_max_str_digits() to increase the limit"

/-- What reading an integer numeral gives. -/
inductive IntegerReading where
  | value (i : Int)
  | malformed
  | tooLong (digits : Nat)

def readIntegerChars (cs : List Char) : IntegerReading :=
  let (neg, rest) := readSign cs
  match digitRun rest [] with
  | ([], _) => .malformed
  | (ds, more) =>
    if ds.length > integerDigitLimit then .tooLong ds.length
    else if more.isEmpty then
      .value (if neg then -(digitsValue ds : Int) else digitsValue ds)
    else .malformed

def readInteger (s : String) : IntegerReading := readIntegerChars (numeralChars s)

/-- The value of a digit in bases up to 36: `0` to `9`, then the letters of either case. -/
def baseDigit? (c : Char) : Option Nat :=
  if '0' ≤ c ∧ c ≤ '9' then some (c.toNat - '0'.toNat)
  else if 'a' ≤ c ∧ c ≤ 'z' then some (c.toNat - 'a'.toNat + 10)
  else if 'A' ≤ c ∧ c ≤ 'Z' then some (c.toNat - 'A'.toNat + 10)
  else none

/-- Reads a run of digits of a base grouped by single underscores between digits; the
second argument holds the digits read so far, most recent first. -/
def baseDigitRun (base : Nat) : List Char → List Nat → List Nat × List Char
  | [], acc => (acc.reverse, [])
  | c :: cs, acc =>
    match (baseDigit? c).filter (· < base) with
    | some d => baseDigitRun base cs (d :: acc)
    | none =>
      if c = '_' ∧ acc ≠ [] then
        match cs with
        | d :: rest =>
          match (baseDigit? d).filter (· < base) with
          | some v => baseDigitRun base rest (v :: acc)
          | none => (acc.reverse, c :: cs)
        | [] => (acc.reverse, [c])
      else (acc.reverse, c :: cs)

/-- The letter of a base's prefix: `0b`, `0o` and `0x` may stand before numerals of
bases 2, 8 and 16. -/
def prefixLetter? : Nat → Option Char
  | 2 => some 'b'
  | 8 => some 'o'
  | 16 => some 'x'
  | _ => none

def dropBasePrefix (base : Nat) (cs : List Char) : List Char :=
  match cs, prefixLetter? base with
  | '0' :: p :: rest, some letter =>
    if p.toLower = letter then
      match rest with
      | '_' :: more => more
      | more => more
    else cs
  | _, _ => cs

/-- Reads an integer numeral of a base from 2 to 36, in ASCII form without blanks at its
ends: a sign, the base's prefix if it has one, and digits of the base. Only bases that
are not powers of two limit the number of digits. -/
def readIntegerOfBaseChars (base : Nat) (cs : List Char) : IntegerReading :=
  let (neg, rest) := readSign cs
  match baseDigitRun base (dropBasePrefix base rest) [] with
  | ([], _) => .malformed
  | (ds, more) =>
    if base &&& (base - 1) ≠ 0 ∧ ds.length > integerDigitLimit then .tooLong ds.length
    else if more.isEmpty then
      let n := ds.foldl (fun n d => base * n + d) 0
      .value (if neg then -(n : Int) else n)
    else .malformed

def readIntegerOfBase (base : Nat) (s : String) : IntegerReading :=
  readIntegerOfBaseChars base (numeralChars s)

def invalidIntegerMessage (base : Nat) (s : String) : String :=
  "invalid literal for int() with base " ++ toString base ++ ": " ++ quote s

end RestConfig.Reading
