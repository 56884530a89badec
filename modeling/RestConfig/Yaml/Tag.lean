/-!
# Implicit tags of YAML scalars

A scalar written plain (or with the tag `!`) gets its tag from its text, by the rules of
YAML 1.1: booleans (`yes`, `No`, `ON`, ...), integers (binary `0b`, octal with a leading
`0`, decimal, hexadecimal `0x`, and base 60 with `:`), floats (a point is required, an
exponent needs its sign; base 60; `.inf` and `.nan`), null (`~`, `null`, empty), dates and
date-times, the merge key `<<`, the value key `=`, and the indicators `!`, `&`, `*`.
Digits may be grouped by underscores. Only the rules registered for the text's first
character are tried. A text that matches a rule up to one final line feed matches it.
Any other scalar is a string.
-/

namespace RestConfig.Yaml

def coreTag (name : String) : String := "tag:yaml.org,2002:" ++ name

def strTag : String := coreTag "str"

def seqTag : String := coreTag "seq"

def mapTag : String := coreTag "map"

namespace Implicit

def digit (c : Char) : Bool := '0' ≤ c && c ≤ '9'

def digitOrMark (c : Char) : Bool := digit c || c == '_'

def dropSign : List Char → List Char
  | '-' :: cs | '+' :: cs => cs
  | cs => cs

def exponent : List Char → Bool
  | [] => true
  | e :: s :: ds => (e == 'e' || e == 'E') && (s == '+' || s == '-') && !ds.isEmpty && ds.all digit
  | _ => false

/-- Groups `:d` or `:dd` (the first of two digits at most 5), at least one, followed by a
rest that satisfies `rest`. -/
def sexagesimal (rest : List Char → Bool) : List Char → Bool
  | ':' :: a :: b :: more =>
    if digit a && digit b && a ≤ '5' then
      (more.head? == some ':' && sexagesimal rest more) || (more.head? != some ':' && rest more)
    else if digit a then
      ((b :: more).head? == some ':' && sexagesimal rest (b :: more)) ||
        ((b :: more).head? != some ':' && rest (b :: more))
    else false
  | [':', a] => digit a && rest []
  | _ => false
termination_by cs => cs.length

def float (cs : List Char) : Bool :=
  let unsigned := dropSign cs
  let pointed := match unsigned with
    | d :: rest =>
      digit d && match rest.dropWhile digitOrMark with
        | '.' :: frac => exponent (frac.dropWhile digitOrMark)
        | _ => false
    | [] => false
  let leadingPoint := match cs with
    | '.' :: d :: rest => digit d && exponent (rest.dropWhile digitOrMark)
    | _ => false
  let base60 := match unsigned with
    | d :: rest =>
      digit d && sexagesimal (fun r => match r with
        | '.' :: frac => frac.all digitOrMark
        | _ => false) (rest.dropWhile digitOrMark)
    | [] => false
  let infinite := unsigned == ['.', 'i', 'n', 'f'] || unsigned == ['.', 'I', 'n', 'f'] ||
    unsigned == ['.', 'I', 'N', 'F']
  let notANumber := cs == ['.', 'n', 'a', 'n'] || cs == ['.', 'N', 'a', 'N'] ||
    cs == ['.', 'N', 'A', 'N']
  pointed || leadingPoint || base60 || infinite || notANumber

def int (cs : List Char) : Bool :=
  let unsigned := dropSign cs
  match unsigned with
  | '0' :: 'b' :: rest => !rest.isEmpty && rest.all fun c => c == '0' || c == '1' || c == '_'
  | '0' :: 'x' :: rest =>
    !rest.isEmpty && rest.all fun c =>
      digit c || ('a' ≤ c && c ≤ 'f') || ('A' ≤ c && c ≤ 'F') || c == '_'
  | ['0'] => true
  | '0' :: rest => rest.all fun c => ('0' ≤ c && c ≤ '7') || c == '_'
  | d :: rest =>
    digit d && (rest.all digitOrMark ||
      sexagesimal (fun r => r.isEmpty) (rest.dropWhile digitOrMark))
  | [] => false

def digits (n : Nat) (cs : List Char) : Option (List Char) :=
  if (cs.take n).length == n && (cs.take n).all digit then some (cs.drop n) else none

def oneOrTwo (cs : List Char) : Option (List Char) :=
  match cs with
  | a :: b :: rest => if digit a then (if digit b then some rest else some (b :: rest)) else none
  | [a] => if digit a then some [] else none
  | [] => none

/-- The optional zone of a date-time: blanks, then `Z` or a signed hour with optional
minutes. -/
def zone (cs : List Char) : Bool :=
  match cs.dropWhile (fun c => c == ' ' || c == '\t') with
  | [] => cs.isEmpty
  | ['Z'] => true
  | s :: rest =>
    (s == '+' || s == '-') &&
      match oneOrTwo rest with
      | some [] => true
      | some (':' :: m) => digits 2 m == some []
      | _ => false

/-- The timestamp rule: a date `yyyy-mm-dd`, or a date-time with one- or two-digit
month, day and hour, optional fraction and optional zone. -/
def timestamp (cs : List Char) : Bool :=
  let dateOnly := match digits 4 cs with
    | some ('-' :: r) => match digits 2 r with
      | some ('-' :: r) => digits 2 r == some []
      | _ => false
    | _ => false
  let dateTime := match digits 4 cs with
    | some ('-' :: r) => match oneOrTwo r with
      | some ('-' :: r) => match oneOrTwo r with
        | some (sep :: r) =>
          let r := if sep == 'T' || sep == 't' then some r
            else if sep == ' ' || sep == '\t' then some (r.dropWhile fun c => c == ' ' || c == '\t')
            else none
          match r.bind oneOrTwo with
          | some (':' :: r) => match digits 2 r with
            | some (':' :: r) => match digits 2 r with
              | some r =>
                let r := match r with
                  | '.' :: frac => frac.dropWhile digit
                  | _ => r
                zone r
              | none => false
            | _ => false
          | _ => false
        | _ => false
      | _ => false
    | _ => false
  dateOnly || dateTime

def bool (s : String) : Bool :=
  ["yes", "Yes", "YES", "no", "No", "NO", "true", "True", "TRUE", "false", "False", "FALSE",
    "on", "On", "ON", "off", "Off", "OFF"].contains s

def null (s : String) : Bool := ["~", "null", "Null", "NULL", ""].contains s

/-- The rules, in the order they are tried, with the first characters they apply to
(`none` for the empty text). -/
def rules : List (String × (Option Char → Bool) × (List Char → Bool)) :=
  [ (coreTag "bool", (fun c => match c with
      | some c => "yYnNtTfFoO".contains c
      | none => false), fun cs => bool (String.ofList cs)),
    (coreTag "float", (fun c => match c with
      | some c => "-+0123456789.".contains c
      | none => false), float),
    (coreTag "int", (fun c => match c with
      | some c => "-+0123456789".contains c
      | none => false), int),
    (coreTag "merge", (· == some '<'), (· == ['<', '<'])),
    (coreTag "null", (fun c => match c with
      | some c => "~nN".contains c
      | none => true), fun cs => null (String.ofList cs)),
    (coreTag "timestamp", (fun c => match c with
      | some c => digit c
      | none => false), timestamp),
    (coreTag "value", (· == some '='), (· == ['='])),
    (coreTag "yaml", (fun c => match c with
      | some c => "!&*".contains c
      | none => false), fun cs => cs == ['!'] || cs == ['&'] || cs == ['*']) ]

def matches_ (rule : List Char → Bool) (cs : List Char) : Bool :=
  rule cs || (cs.getLast? == some '\n' && rule cs.dropLast)

end Implicit

def implicitTag? (value : String) : Option String :=
  let cs := value.toList
  (Implicit.rules.find? fun (_, first, rule) => first cs.head? && Implicit.matches_ rule cs).map
    (·.1)

/-- The tag of a scalar with no explicit tag: implied by its text when `implicit`, a
string otherwise. -/
def scalarTag (value : String) (implicit : Bool) : String :=
  if implicit then (implicitTag? value).getD strTag else strTag

end RestConfig.Yaml
