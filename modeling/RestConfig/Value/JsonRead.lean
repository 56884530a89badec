import RestConfig.Value.Json
import RestConfig.Number.Reading

/-!
# Reading JSON texts

A JSON text is read as RFC 8259 defines it. Blanks (space, tab, line feed, carriage return)
may stand around tokens. The literals are `null`, `true` and `false`; there is none for
not-a-number or the infinities. A number has an optional minus, an integer part that is a
single zero or digits not starting with zero, an optional fraction (a point and digits) and
an optional exponent (a mark, an optional sign and digits); without fraction and exponent it
is an integer, otherwise the binary64 number nearest to it. A string stands between quotes:
every character from U+0020 on stands for itself but the quote and the backslash, and the
escapes stand for the quote, the backslash, the slash, backspace, form feed, line feed,
carriage return, tab, and a character given by four hexadecimal digits (a surrogate pair by
two escapes; a lone surrogate stands for no character). Arrays hold values separated by
commas; objects hold string keys with values, a later value of a key replacing the earlier
one where it stands. Nothing but blanks may follow the value.
-/

namespace RestConfig.Json

def isBlank (c : Char) : Bool := c = ' ' || c = '\t' || c = '\n' || c = '\r'

def dropBlanks (cs : List Char) : List Char := cs.dropWhile isBlank

def isDigit (c : Char) : Bool := '0' ≤ c && c ≤ '9'

def hexValue? (c : Char) : Option Nat := (Reading.baseDigit? c).filter (· < 16)

def hex4? (a b c d : Char) : Option Nat := do
  let a ← hexValue? a
  let b ← hexValue? b
  let c ← hexValue? c
  let d ← hexValue? d
  pure (((a * 16 + b) * 16 + c) * 16 + d)

/-- The character with a code point, unless the code point is a surrogate or out of range. -/
def charOf? (n : Nat) : Option Char := if n.isValidChar then some (Char.ofNat n) else none

def prepend (c : Char) : Option (List Char × List Char) → Option (List Char × List Char)
  | some (cs, rest) => some (c :: cs, rest)
  | none => none

/-- Reads the characters of a string after its opening quote: answers them and what follows
the closing quote. -/
def readChars : List Char → Option (List Char × List Char)
  | [] => none
  | '"' :: rest => some ([], rest)
  | '\\' :: '"' :: rest => prepend '"' (readChars rest)
  | '\\' :: '\\' :: rest => prepend '\\' (readChars rest)
  | '\\' :: '/' :: rest => prepend '/' (readChars rest)
  | '\\' :: 'b' :: rest => prepend '\x08' (readChars rest)
  | '\\' :: 'f' :: rest => prepend '\x0c' (readChars rest)
  | '\\' :: 'n' :: rest => prepend '\n' (readChars rest)
  | '\\' :: 'r' :: rest => prepend '\r' (readChars rest)
  | '\\' :: 't' :: rest => prepend '\t' (readChars rest)
  | '\\' :: 'u' :: a :: b :: c :: d :: rest =>
    match hex4? a b c d with
    | some n =>
      if 0xD800 ≤ n ∧ n < 0xDC00 then
        -- a high surrogate stands for a character only with a low one right after it
        match rest with
        | '\\' :: 'u' :: e :: f :: g :: h :: more =>
          match hex4? e f g h with
          | some m =>
            if 0xDC00 ≤ m ∧ m < 0xE000 then
              prepend (Char.ofNat (0x10000 + (n - 0xD800) * 0x400 + (m - 0xDC00))) (readChars more)
            else none
          | none => none
        | _ => none
      else
        match charOf? n with
        | some ch => prepend ch (readChars rest)
        | none => none
    | none => none
  | '\\' :: _ => none
  | c :: rest => if c.toNat < 0x20 then none else prepend c (readChars rest)

def digitsNat (ds : List Char) : Nat := ds.foldl (fun n d => 10 * n + (d.toNat - '0'.toNat)) 0

def wholePart : List Char → List Char × List Char
  | '0' :: rest => (['0'], rest)
  | cs => cs.span isDigit

def fractionPart : List Char → List Char × List Char
  | '.' :: d :: rest =>
    if isDigit d then
      let (ds, after) := (d :: rest).span isDigit
      ('.' :: ds, after)
    else ([], '.' :: d :: rest)
  | cs => ([], cs)

def exponentSign : List Char → List Char × List Char
  | '+' :: rest => (['+'], rest)
  | '-' :: rest => (['-'], rest)
  | cs => ([], cs)

/-- The exponent of a number, a mark with an optional sign and digits, if there is one. -/
def exponentPart : List Char → List Char × List Char
  | e :: rest =>
    if e = 'e' ∨ e = 'E' then
      let (sign, afterSign) := exponentSign rest
      let (ds, after) := afterSign.span isDigit
      if ds.isEmpty then ([], e :: rest) else (e :: sign ++ ds, after)
    else ([], e :: rest)
  | [] => ([], [])

/-- Reads a number: an integer when it has neither fraction nor exponent, else the nearest
binary64 number. -/
def readNumber (cs : List Char) : Option (Value × List Char) :=
  let (minus, afterSign) := match cs with
    | '-' :: rest => (true, rest)
    | rest => (false, rest)
  let (whole, afterWhole) := wholePart afterSign
  if whole.isEmpty then none
  else
    let (frac, afterFrac) := fractionPart afterWhole
    let (exp, rest) := exponentPart afterFrac
    if frac.isEmpty ∧ exp.isEmpty then
      let n : Int := digitsNat whole
      some (.int (if minus then -n else n), rest)
    else
      let text := (if minus then ['-'] else []) ++ whole ++ frac ++ exp
      (Reading.readFloat? (String.ofList text)).map fun x => (.float x, rest)

def keyIs (key : String) : Value × Value → Bool
  | (.str k, _) => k == key
  | _ => false

def setEntry (entries : List (Value × Value)) (key : String) (v : Value) : List (Value × Value) :=
  if entries.any (keyIs key) then entries.map fun e => if keyIs key e then (e.1, v) else e
  else entries ++ [(.str key, v)]

mutual
def readValue : Nat → List Char → Option (Value × List Char)
  | 0, _ => none
  | fuel + 1, cs =>
    match cs with
    | '"' :: rest => (readChars rest).map fun (s, after) => (.str (String.ofList s), after)
    | '[' :: rest =>
      match dropBlanks rest with
      | ']' :: after => some (.list [], after)
      | inside => (readItems fuel inside).map fun (items, after) => (.list items, after)
    | '{' :: rest =>
      match dropBlanks rest with
      | '}' :: after => some (.map [], after)
      | inside => (readMembers fuel [] inside).map fun (entries, after) => (.map entries, after)
    | 'n' :: 'u' :: 'l' :: 'l' :: rest => some (.none, rest)
    | 't' :: 'r' :: 'u' :: 'e' :: rest => some (.bool true, rest)
    | 'f' :: 'a' :: 'l' :: 's' :: 'e' :: rest => some (.bool false, rest)
    | _ => readNumber cs

def readItems : Nat → List Char → Option (List Value × List Char)
  | 0, _ => none
  | fuel + 1, cs =>
    match readValue fuel cs with
    | some (v, after) =>
      match dropBlanks after with
      | ',' :: more => (readItems fuel (dropBlanks more)).map fun (vs, rest) => (v :: vs, rest)
      | ']' :: rest => some ([v], rest)
      | _ => none
    | none => none

/-- Reads the members of an object, separated by commas, up to its closing brace, setting
each into the entries read before. -/
def readMembers : Nat → List (Value × Value) → List Char → Option (List (Value × Value) × List Char)
  | 0, _, _ => none
  | fuel + 1, acc, '"' :: cs =>
    match readChars cs with
    | some (key, afterKey) =>
      match dropBlanks afterKey with
      | ':' :: afterColon =>
        match readValue fuel (dropBlanks afterColon) with
        | some (v, afterValue) =>
          let acc := setEntry acc (String.ofList key) v
          match dropBlanks afterValue with
          | ',' :: more => readMembers fuel acc (dropBlanks more)
          | '}' :: rest => some (acc, rest)
          | _ => none
        | none => none
      | _ => none
    | none => none
  | _ + 1, _, _ => none
end

def decode (s : String) : Option Value :=
  match readValue (s.length + 1) (dropBlanks s.toList) with
  | some (v, rest) => if (dropBlanks rest).isEmpty then some v else none
  | none => none

end RestConfig.Json
