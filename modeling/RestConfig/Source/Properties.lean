import RestConfig.Failure
import RestConfig.Text.Quoted

/-!
# Properties text

The line-oriented properties format. Only CR, LF and CRLF end a physical line. Leading
spaces, tabs and form feeds are dropped from every physical line. Where a logical line
would begin, blank lines and lines starting with `#` or `!` are skipped. A line ending
in an odd number of backslashes continues on the next physical line, without that last
backslash; a continuation pending at the end of the text is kept.

An entry's key runs to the first unescaped `=`, `:`, space, tab or form feed; the value
follows after blanks, at most one `=` or `:`, and blanks again. In both, `\t`, `\n`,
`\r`, `\f` and `\uXXXX` are escapes, any other escaped character stands for itself, and a
lone backslash at the end is kept. A later entry for the same key wins.
-/

namespace RestConfig.Properties

def blanks : List Char := [' ', '\t', '\x0c']

def dropBlanks (cs : List Char) : List Char := cs.dropWhile (blanks.contains ·)

/-- Physical lines, cut at CRLF, CR and LF only; the second argument holds the current
line, reversed. There is always at least one line. -/
def physicalLines : List Char → List Char → List (List Char)
  | [], acc => [acc.reverse]
  | '\r' :: '\n' :: cs, acc => acc.reverse :: physicalLines cs []
  | '\r' :: cs, acc => acc.reverse :: physicalLines cs []
  | '\n' :: cs, acc => acc.reverse :: physicalLines cs []
  | c :: cs, acc => physicalLines cs (c :: acc)

def trailingBackslashes (cs : List Char) : Nat := (cs.reverse.takeWhile (· = '\\')).length

/-- Whether a line continues on the next one: it ends in an odd number of backslashes. -/
def continues (cs : List Char) : Bool := trailingBackslashes cs % 2 == 1

def skipped : List Char → Bool
  | [] => true
  | c :: _ => c = '#' || c = '!'

/-- Joins physical lines into logical lines; `pending` is the continued line so far. -/
def logicalFrom : List (List Char) → Option (List Char) → List (List Char)
  | [], none => []
  | [], some p => [p]
  | raw :: rest, pending =>
    let stripped := dropBlanks raw
    match pending with
    | none =>
      if skipped stripped then logicalFrom rest none
      else if continues stripped then logicalFrom rest (some stripped.dropLast)
      else stripped :: logicalFrom rest none
    | some p =>
      let current := p ++ stripped
      if continues current then logicalFrom rest (some current.dropLast)
      else current :: logicalFrom rest none

def logicalLines (text : String) : List (List Char) :=
  logicalFrom (physicalLines text.toList []) none

/-- Splits a logical line at the end of its key: the raw key (escapes still in it) and the
rest of the line. -/
def keyPart : List Char → List Char × List Char
  | [] => ([], [])
  | '\\' :: c :: cs => let (k, r) := keyPart cs; ('\\' :: c :: k, r)
  | c :: cs =>
    if c = '=' ∨ c = ':' ∨ blanks.contains c then ([], c :: cs)
    else let (k, r) := keyPart cs; (c :: k, r)

def valuePart (rest : List Char) : List Char :=
  match dropBlanks rest with
  | '=' :: more | ':' :: more => dropBlanks more
  | other => other

def isHex (c : Char) : Bool :=
  ('0' ≤ c && c ≤ '9') || ('a' ≤ c && c ≤ 'f') || ('A' ≤ c && c ≤ 'F')

def hexValue (c : Char) : Nat :=
  if c ≤ '9' then c.toNat - 48 else if c ≤ 'F' then c.toNat - 55 else c.toNat - 87

def unescapeChars : List Char → Option (List Char)
  | [] => some []
  | ['\\'] => some ['\\']
  | '\\' :: 'u' :: rest =>
    match rest with
    | a :: b :: c :: d :: more =>
      if isHex a && isHex b && isHex c && isHex d then
        let code := ((hexValue a * 16 + hexValue b) * 16 + hexValue c) * 16 + hexValue d
        (unescapeChars more).map (Char.ofNat code :: ·)
      else none
    | _ => none
  | '\\' :: c :: rest =>
    let e := if c = 't' then '\t' else if c = 'n' then '\n' else if c = 'r' then '\r'
      else if c = 'f' then '\x0c' else c
    (unescapeChars rest).map (e :: ·)
  | c :: rest => (unescapeChars rest).map (c :: ·)

def unescape (raw : List Char) : Except Failure String :=
  match unescapeChars raw with
  | some cs => .ok (String.ofList cs)
  | none => .error (.badSource ("malformed \\uXXXX escape in " ++ Text.quote (String.ofList raw)))

def entry (line : List Char) : Except Failure (String × String) := do
  let (rawKey, rest) := keyPart line
  let key ← unescape rawKey
  let value ← unescape (valuePart rest)
  pure (key, value)

def setEntry (m : List (String × String)) (k v : String) : List (String × String) :=
  if m.any (·.1 == k) then m.map fun p => if p.1 == k then (k, v) else p else m ++ [(k, v)]

def parse (text : String) : Except Failure (List (String × String)) :=
  (logicalLines text).foldlM (fun m line => do
    let (k, v) ← entry line
    pure (setEntry m k v)) []

end RestConfig.Properties
