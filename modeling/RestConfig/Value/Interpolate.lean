import RestConfig.Value.Written
import RestConfig.Number.Places
import RestConfig.Failure
import RestConfig.Text.Quoted

/-!
# Interpolating values into a template

A template is text in which `%` starts a conversion specification: an optional mapping key
in parentheses, flags among `-+ #0`, an optional width and precision (each a number or `*`,
which takes the next argument), an ignored length letter `h`, `l` or `L`, and a conversion
letter; `%%` stands for one `%`.

The arguments are a tuple, used from left to right, or a single value, used once. When
that value is a mapping, a key selects an entry, which then becomes the single value for
the rest of the specification, and unused arguments are not an error; otherwise every
argument of a tuple must be used. Specifications are read and applied strictly from left
to right, so of two faults the first one met is reported.

The conversions: `s`, `r` and `a` write a value's display, its literal and its literal in
ASCII, cut to the precision; `d`, `i`, `u`, `o`, `x`, `X` write an integer in base 10, 8
or 16 with at least `precision` digits (`#` adds `0o`, `0x` or `0X`); `e`, `E`, `f`, `F`,
`g`, `G` write a number in scientific, fixed or general notation; `c` writes a character
given by its code or as a text of length one. The result is padded to the width: on the
left with blanks, after the sign and prefix with zeros for a number under `0`, or on the
right under `-`. `+` and a blank put a sign before non-negative numbers. A value, or an
integer in base 10, that is too long to write (see `RestConfig.Value.Written`) fails its
conversion.
-/

namespace RestConfig.Interpolate

open RestConfig.Text

/-- The arguments still to be used. -/
inductive Pending where
  | items (rest : List Value)
  | single (v : Value)
  | spent
  deriving Inhabited

/-- The arguments of an interpolation: what is left to use, and the mapping that keys
select from, if the arguments are a mapping. -/
structure Arguments where
  pending : Pending
  mapping : Option (List (Value × Value))
  deriving Inhabited

def Arguments.ofValue : Value → Arguments
  | .tuple items => ⟨.items items, none⟩
  | .map entries => ⟨.single (.map entries), some entries⟩
  | v => ⟨.single v, none⟩

def Arguments.next (a : Arguments) : Except Failure (Value × Arguments) :=
  match a.pending with
  | .items (v :: rest) => .ok (v, { a with pending := .items rest })
  | .single v => .ok (v, { a with pending := .spent })
  | _ => .error (.wrongType "not enough arguments for format string")

def Arguments.leftOver (a : Arguments) : Bool :=
  a.mapping.isNone && match a.pending with
    | .items (_ :: _) | .single _ => true
    | _ => false

/-- A parsed conversion specification. -/
structure Spec where
  left : Bool
  sign : Bool
  blank : Bool
  alternate : Bool
  zero : Bool
  width : Option Nat
  precision : Option Nat
  conversion : Char
  deriving Inhabited

def incomplete : Failure := .badArgument "incomplete format"

def widthLimit : Nat := 9223372036854775807
def precisionLimit : Nat := 2147483647

/-- Reads a key up to the parenthesis that balances the opening one; answers the key and
the rest after it. -/
def readKey : Nat → List Char → List Char → Option (List Char × List Char)
  | _, _, [] => none
  | depth, key, c :: rest =>
    if c = ')' then
      if depth = 0 then some (key.reverse, rest) else readKey (depth - 1) (c :: key) rest
    else if c = '(' then readKey (depth + 1) (c :: key) rest
    else readKey depth (c :: key) rest

def lookup (entries : List (Value × Value)) (key : String) : Option Value :=
  (entries.find? fun (k, _) => match k with
    | .str s => s == key
    | _ => false).map (·.2)

def digitsValue (ds : List Char) : Nat :=
  ds.foldl (fun n c => 10 * n + (c.toNat - '0'.toNat)) 0

def starArgument (v : Value) : Except Failure Int :=
  match v with
  | .int n => .ok n
  | .bool b => .ok (if b then 1 else 0)
  | _ => .error (.wrongType "* wants int")

def isFlag (c : Char) : Bool := c = '-' ∨ c = '+' ∨ c = ' ' ∨ c = '#' ∨ c = '0'

/-- Reads a specification from the text after its `%`, taking arguments for `*`; answers
the specification, the rest of the template, the number of characters read and the
arguments left. -/
def readSpec (cs : List Char) (args : Arguments) :
    Except Failure (Spec × List Char × Nat × Arguments) := do
  let (cs, keyLength, args) ← match cs with
    | '(' :: rest =>
      match args.mapping with
      | none => throw (.wrongType "format requires a mapping")
      | some entries =>
        match readKey 0 [] rest with
        | none => throw (.badArgument "incomplete format key")
        | some (key, after) =>
          match lookup entries (String.ofList key) with
          | none => throw (.unknownName (String.ofList key))
          | some v => pure (after, key.length + 2, { args with pending := .single v })
    | _ => pure (cs, 0, args)
  let flags := cs.takeWhile isFlag
  let cs := cs.dropWhile isFlag
  let read := keyLength + flags.length
  let (width, left, cs, read, args) ← match cs with
    | '*' :: rest =>
      let (v, args) ← args.next
      let w ← starArgument v
      if w < -9223372036854775808 ∨ w > widthLimit then
        throw (.tooLarge "Python int too large to convert to C ssize_t")
      pure (some w.natAbs, decide (w < 0), rest, read + 1, args)
    | c :: _ =>
      if c.isDigit then
        let ds := cs.takeWhile Char.isDigit
        let n := digitsValue ds
        if n > widthLimit then throw (.badArgument "width too big")
        pure (some n, false, cs.dropWhile Char.isDigit, read + ds.length, args)
      else pure (none, false, cs, read, args)
    | [] => pure (none, false, cs, read, args)
  let (precision, cs, read, args) ← match cs with
    | '.' :: rest =>
      match rest with
      | '*' :: after =>
        let (v, args) ← args.next
        let p ← starArgument v
        if p < -2147483648 ∨ p > precisionLimit then
          throw (.tooLarge "Python int too large to convert to C int")
        pure (some p.toNat, after, read + 2, args)
      | c :: _ =>
        if c.isDigit then
          let ds := rest.takeWhile Char.isDigit
          let n := digitsValue ds
          if n > precisionLimit then throw (.badArgument "precision too big")
          pure (some n, rest.dropWhile Char.isDigit, read + 1 + ds.length, args)
        else pure (some 0, rest, read + 1, args)
      | [] => pure (some 0, rest, read + 1, args)
    | _ => pure (none, cs, read, args)
  let (cs, read) := match cs with
    | c :: rest => if c = 'h' ∨ c = 'l' ∨ c = 'L' then (rest, read + 1) else (cs, read)
    | [] => (cs, read)
  match cs with
  | [] => throw incomplete
  | c :: rest =>
    let spec : Spec :=
      { left := left || flags.contains '-', sign := flags.contains '+',
        blank := flags.contains ' ', alternate := flags.contains '#',
        zero := flags.contains '0', width, precision, conversion := c }
    pure (spec, rest, read + 1, args)

def integerOf (conversion : Char) (v : Value) : Except Failure Int :=
  let baseOnly := conversion = 'o' ∨ conversion = 'x' ∨ conversion = 'X'
  let wrong := if baseOnly then "an integer is required" else "a real number is required"
  let refuse : Failure :=
    .wrongType ("%" ++ conversion.toString ++ " format: " ++ wrong ++ ", not " ++ v.typeName)
  match v with
  | .int n => .ok n
  | .bool b => .ok (if b then 1 else 0)
  | .float x =>
    if baseOnly then .error refuse
    else if x.isNaN then .error (.badArgument "cannot convert float NaN to integer")
    else match x.toExtended with
      | .finite m q => .ok (if 0 ≤ q then m * Int.pow 2 q.toNat else m.tdiv (Int.pow 2 (-q).toNat))
      | _ => .error (.tooLarge "cannot convert float infinity to integer")
  | _ => .error refuse

/-- An integer written for an integer conversion: sign, prefix under `#`, and at least
`precision` digits. -/
def integerText (spec : Spec) (n : Int) : List Char :=
  let (base, pre) : Nat × List Char := match spec.conversion with
    | 'o' => (8, ['0', 'o'])
    | 'x' | 'X' => (16, ['0', 'x'])
    | _ => (10, [])
  let ds := Nat.toDigits base n.natAbs
  let ds := List.replicate (spec.precision.getD 0 - ds.length) '0' ++ ds
  let body := (if n < 0 then ['-'] else []) ++ (if spec.alternate then pre else []) ++ ds
  if spec.conversion = 'X' then body.map Char.toUpper else body

def numberOf (v : Value) : Except Failure Binary64 :=
  match v with
  | .float x => .ok x
  | .int n =>
    let x := Binary64.ofInt n
    if x.isInfinite then .error (.tooLarge "int too large to convert to float") else .ok x
  | .bool b => .ok (Binary64.ofInt (if b then 1 else 0))
  | _ => .error (.wrongType ("must be real number, not " ++ v.typeName))

def charOf (v : Value) : Except Failure Char :=
  let refuse : Failure := .wrongType "%c requires int or char"
  let ofCode (n : Int) : Except Failure Char :=
    if n < 0 ∨ n > 0x10FFFF then .error (.tooLarge "%c arg not in range(0x110000)")
    else .ok (Char.ofNat n.toNat)
  match v with
  | .str s => match s.toList with
    | [c] => .ok c
    | _ => .error refuse
  | .int n => ofCode n
  | .bool b => ofCode (if b then 1 else 0)
  | _ => .error refuse

def unsupported (c : Char) (index : Nat) : Failure :=
  let shown := if 31 ≤ c.toNat ∧ c.toNat ≤ 126 then c else '?'
  .badArgument ("unsupported format character '" ++ shown.toString ++ "' (0x" ++
    String.ofList (Nat.toDigits 16 c.toNat) ++ ") at index " ++ toString index)

/-- Pads a converted text to the specification's width; `numeric` texts carry a sign and
may be padded with zeros. -/
def pad (spec : Spec) (numeric : Bool) (text : List Char) : List Char :=
  let text :=
    if spec.conversion = 's' ∨ spec.conversion = 'r' ∨ spec.conversion = 'a' then
      match spec.precision with
      | some p => text.take p
      | none => text
    else text
  let (signChar, body) : Option Char × List Char :=
    if numeric then
      match text with
      | c :: rest =>
        if c = '-' ∨ c = '+' then (some c, rest)
        else if spec.sign then (some '+', text)
        else if spec.blank then (some ' ', text)
        else (none, text)
      | [] => if spec.sign then (some '+', text) else if spec.blank then (some ' ', text) else (none, text)
    else (none, text)
  let width := max (spec.width.getD 0) body.length
  let width := if signChar.isSome && width > body.length then width - 1 else width
  let prefixed := spec.alternate &&
    (spec.conversion = 'x' ∨ spec.conversion = 'X' ∨ spec.conversion = 'o')
  let (pre, digits) := if prefixed then (body.take 2, body.drop 2) else ([], body)
  let width := if prefixed then width - 2 else width
  let gap := width - digits.length
  let signText := signChar.toList
  if spec.left then signText ++ pre ++ digits ++ List.replicate gap ' '
  else if numeric && spec.zero then signText ++ pre ++ List.replicate gap '0' ++ digits
  else List.replicate gap ' ' ++ signText ++ pre ++ digits

def convert (spec : Spec) (index : Nat) (v : Value) : Except Failure (List Char) :=
  match spec.conversion with
  | 's' => (fun t => pad spec false t.toList) <$> v.toText
  | 'r' => if v.citable then .ok (pad spec false v.literal.toList) else .error writeLimitFailure
  | 'a' =>
    if v.citable then .ok (pad spec false (asciiEscaped v.literal).toList)
    else .error writeLimitFailure
  | 'd' | 'i' | 'u' | 'o' | 'x' | 'X' => do
    let n ← integerOf spec.conversion v
    let decimal := spec.conversion = 'd' ∨ spec.conversion = 'i' ∨ spec.conversion = 'u'
    if decimal ∧ ¬ (Value.int n).citable then throw writeLimitFailure
    pure (pad spec true (integerText spec n))
  | 'e' | 'E' | 'f' | 'F' | 'g' | 'G' => do
    let x ← numberOf v
    let c := spec.conversion
    let form : NumberForm :=
      if c = 'e' ∨ c = 'E' then .scientific else if c = 'f' ∨ c = 'F' then .fixed else .general
    let text := x.withPrecision form (spec.precision.getD 6) spec.alternate c.isUpper
    pure (pad spec true text.toList)
  | 'c' => do
    let ch ← charOf v
    pure (pad spec false [ch])
  | c => .error (unsupported c index)

/-- Interpolates from position `pos` of the template, with `fuel` steps left; answers the
text and the arguments left. -/
def run : Nat → List Char → Nat → Arguments → Except Failure (List Char × Arguments)
  | 0, _, _, args => .ok ([], args)
  | _ + 1, [], _, args => .ok ([], args)
  | fuel + 1, c :: rest, pos, args =>
    if c ≠ '%' then do
      let (out, args) ← run fuel rest (pos + 1) args
      pure (c :: out, args)
    else match rest with
      | '%' :: after => do
        let (out, args) ← run fuel after (pos + 2) args
        pure ('%' :: out, args)
      | _ => do
        let (spec, after, read, args) ← readSpec rest args
        let (v, args) ← args.next
        let piece ← convert spec (pos + read) v
        let (out, args) ← run fuel after (pos + 1 + read) args
        pure (piece ++ out, args)

def apply (template : String) (args : Value) : Except Failure String := do
  let cs := template.toList
  let (out, left) ← run (cs.length + 1) cs 0 (Arguments.ofValue args)
  if left.leftOver then throw (.wrongType "not all arguments converted during string formatting")
  pure (String.ofList out)

end RestConfig.Interpolate
