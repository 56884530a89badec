import RestConfig.Setting.Basic
import RestConfig.Number.Reading
import RestConfig.Failure

/-!
# Reading a value as a kind

Each kind accepts its own values:

* string: a text, without its end blanks;
* password: a secret, or a text kept as it is;
* boolean: a boolean, or a text that is `true` or `false` in any case once its end
  blanks are gone;
* int and long: an integer within the kind's bounds (a boolean is not one), or a text
  that is an optional sign and ASCII digits once its end blanks are gone;
* double: an integer or a binary64 number, or a text that reads as a decimal numeral,
  provided the result is finite;
* list: a list or tuple, each item's display without its end blanks, or a text cut at
  commas, each piece without its end blanks (an empty text is the empty list).

Everything else is refused with a message that cites the value. That message is formed
before anything else is looked at, with the room the reading has (see
`RestConfig.Value.Written`), so a value that cannot be cited (it holds an integer of more
digits than integers are written with, or nests deeper than the room allows) is refused first,
with the fault met, whatever the kind.
-/

namespace RestConfig

open RestConfig.Text RestConfig.Reading

/-- Why a value could not be read as a kind. -/
inductive ReadError where
  | mismatch (kind : Kind) (raw : Value)
  | tooManyDigits (count : Nat)
  | tooLargeForDouble
  | uncited (fault : Failure)
  deriving Inhabited

def ReadError.toFailure : ReadError → Failure
  | .mismatch k v => .badValue ("expected " ++ k.name ++ ", got value " ++ v.literal)
  | .tooManyDigits n => .badArgument (tooManyDigitsMessage n)
  | .tooLargeForDouble => .tooLarge "int too large to convert to float"
  | .uncited f => f

/-- The digits of a whole-number text: an optional sign and one or more ASCII digits. -/
def wholeDigits? (cs : List Char) : Option (Bool × List Nat) :=
  let (neg, rest) := readSign cs
  let ds := rest.filterMap asciiDigit?
  if ds.length = rest.length ∧ ds ≠ [] then some (neg, ds) else none

/-- Whether a text is `true` or `false` in any case; lower-casing maps no character
outside ASCII onto a letter of these words, so ASCII case folding decides it. -/
def flagOfText? (cs : List Char) : Option Bool :=
  let lowered := cs.map Char.toLower
  if lowered = "true".toList then some true
  else if lowered = "false".toList then some false
  else none

def Kind.wholeWithin (k : Kind) (raw : Value) (i : Int) : Except ReadError Setting :=
  if k.bounds.1 ≤ i ∧ i ≤ k.bounds.2 then .ok (.whole i) else .error (.mismatch k raw)

def Kind.readCitable (k : Kind) (raw : Value) : Except ReadError Setting :=
  let refuse : Except ReadError Setting := .error (.mismatch k raw)
  match k, raw with
  | .string, .str s => .ok (.text (trim s))
  | .password, .password p => .ok (.secret p)
  | .password, .str s => .ok (.secret s)
  | .boolean, .bool b => .ok (.flag b)
  | .boolean, .str s =>
    match flagOfText? (trimBlanks s.toList) with
    | some b => .ok (.flag b)
    | none => refuse
  | .int, .int i | .long, .int i => k.wholeWithin raw i
  | .int, .str s | .long, .str s =>
    match wholeDigits? (trimBlanks s.toList) with
    | some (neg, ds) =>
      if ds.length > integerDigitLimit then .error (.tooManyDigits ds.length)
      else k.wholeWithin raw (if neg then -(digitsValue ds : Int) else digitsValue ds)
    | none => refuse
  | .double, .int i =>
    let x := Binary64.ofInt i
    if x.isInfinite then .error .tooLargeForDouble else .ok (.real x)
  | .double, .float x => if x.isFinite then .ok (.real x) else refuse
  | .double, .str s =>
    match readFloat? (trim s) with
    | some x => if x.isFinite then .ok (.real x) else refuse
    | none => refuse
  | .list, .list items | .list, .tuple items =>
    .ok (.items (items.map fun v => trim v.display))
  | .list, .str s =>
    let cs := trimBlanks s.toList
    if cs.isEmpty then .ok (.items [])
    else .ok (.items ((cs.splitOn ',').map fun piece => String.ofList (trimBlanks piece)))
  | _, _ => refuse

def Kind.read (k : Kind) (room : Nat) (raw : Value) : Except ReadError Setting :=
  match raw.reprFault room with
  | some f => .error (.uncited f)
  | none => k.readCitable raw

end RestConfig
