import RestConfig.Toml.Tree
import RestConfig.Number.Reading
import RestConfig.Text.Quoted
import RestConfig.Depth

/-!
# TOML scalars

The pieces of a TOML document that are read character by character: blanks and comments,
bare keys, the four kinds of strings, numbers, dates and times. A document is held as an
array of characters and read by position, so that a problem is reported where it is met,
as a line and a column (or as the end of the document).

Numbers: an integer is decimal (with an optional sign and no leading zero), or
hexadecimal, octal or binary after `0x`, `0o` or `0b`; digits may be joined by single
underscores. A decimal with a fraction or an exponent is a float, and so are `inf` and
`nan` with an optional sign. A date is `YYYY-MM-DD`; with a time (`HH:MM:SS` and an
optional fraction, of which six digits are kept) after `T`, `t` or a blank it is a
date-time, which may end with `Z` or an offset `±HH:MM`. A time alone is a time of day.

## Room

The readers take room (see `RestConfig.Depth`), the room of the step they stand for. A
step that hands a piece to another step opens a call; looking for a text ahead, searching
for the end of a piece, and making a date, a time or a number's value call a value. A
problem is told only with room to spare: where it lies takes two calls to tell, and
counting the lines before it a call of a value.
-/

namespace RestConfig.Toml

open RestConfig.Text

/-- Why a document could not be read. -/
inductive Problem where
  | broken (message : String) (pos : Nat)
  | tooManyDigits (count : Nat)
  | tooDeep (site : Site)
  deriving Inhabited

abbrev Source := Array Char

def coordinates (src : Source) (pos : Nat) : String :=
  if pos ≥ src.size then "end of document"
  else
    let before := (src.extract 0 pos).toList
    let line := before.count '\n' + 1
    let column := if line = 1 then pos + 1 else (before.reverse.takeWhile (· != '\n')).length + 1
    "line " ++ toString line ++ ", column " ++ toString column

def Problem.message (src : Source) : Problem → String
  | .broken m pos => m ++ " (at " ++ coordinates src pos ++ ")"
  | .tooManyDigits n => Reading.tooManyDigitsMessage n
  | .tooDeep site => site.message

def fail {α : Type} (pos : Nat) (message : String) : Except Problem α := .error (.broken message pos)

def need (room : Nat) (site : Site) : Except Problem Unit :=
  if room = 0 then .error (.tooDeep site) else pure ()

/-- A problem at a position, met by a step with a room. Telling where the position lies
opens two calls, and counting the lines before it calls a value; a position at the end of
the document is told without counting. -/
def problemIn (src : Source) (room pos : Nat) (message : String) : Problem :=
  if room < 2 then .tooDeep .call
  else if room = 2 ∧ pos < src.size then .tooDeep .valueCall
  else .broken message pos

def failIn {α : Type} (src : Source) (room pos : Nat) (message : String) : Except Problem α :=
  .error (problemIn src room pos message)

def startsAt (src : Source) (pos : Nat) (s : String) : Bool :=
  s.toList.zipIdx.all fun (c, i) => src[pos + i]? == some c

def slice (src : Source) (a b : Nat) : List Char := (src.extract a b).toList

def skipWhile (src : Source) (p : Char → Bool) (pos : Nat) : Nat :=
  if h : pos < src.size then
    if p src[pos] then skipWhile src p (pos + 1) else pos
  else pos
termination_by src.size - pos

def isBlank (c : Char) : Bool := c = ' ' ∨ c = '\t'

def isBlankOrBreak (c : Char) : Bool := c = ' ' ∨ c = '\t' ∨ c = '\n'

def isControl (c : Char) : Bool := c.toNat < 32 ∨ c.toNat = 127

def refusedInLine (c : Char) : Bool := isControl c && c != '\t'

def refusedInLines (c : Char) : Bool := isControl c && c != '\t' && c != '\n'

def isBareKeyChar (c : Char) : Bool := c.isAlphanum || c = '-' || c = '_'

def isDigit (c : Char) : Bool := c.isDigit

def isHexDigit (c : Char) : Bool := c.isDigit || ('a' ≤ c && c ≤ 'f') || ('A' ≤ c && c ≤ 'F')

def hexValue (c : Char) : Nat :=
  if c.isDigit then c.toNat - '0'.toNat
  else if 'a' ≤ c ∧ c ≤ 'f' then c.toNat - 'a'.toNat + 10
  else c.toNat - 'A'.toNat + 10

def find? (src : Source) (text : String) (pos : Nat) : Option Nat :=
  if h : pos < src.size then
    if startsAt src pos text then some pos else find? src text (pos + 1)
  else none
termination_by src.size - pos

/-- Moves to the next occurrence of `expect`, with a room: a refused character before it
is a problem, and so is a missing one when `mustEnd` holds (the end of the document is then
taken instead). -/
def skipUntil (src : Source) (room pos : Nat) (expect : String) (refused : Char → Bool)
    (mustEnd : Bool) : Except Problem Nat := do
  need room .valueCall
  let next ← match find? src expect pos with
    | some p => pure p
    | none => if mustEnd then failIn src room src.size ("Expected " ++ quote expect) else pure src.size
  match ((slice src pos next).zipIdx.find? fun (c, _) => refused c) with
  | some (c, i) => failIn src room (pos + i) ("Found invalid character " ++ quote c.toString)
  | none => pure next

def skipComment (src : Source) (room pos : Nat) : Except Problem Nat :=
  if src[pos]? == some '#' then do
    need room .call
    skipUntil src (room - 1) (pos + 1) "\n" refusedInLine false
  else pure pos

/-- Skips blanks, line breaks and comments, as between the items of an array, with a
room. -/
def skipArrayGaps (src : Source) (room pos : Nat) : Except Problem Nat := do
  need room .call
  need room .call
  let next ← skipComment src (room - 1) (skipWhile src isBlankOrBreak pos)
  if next ≤ pos then pure pos
  else if src.size < next then pure next
  else skipArrayGaps src room next
termination_by src.size + 1 - pos

def letterEscape? : Char → Option Char
  | 'b' => some '\x08'
  | 't' => some '\t'
  | 'n' => some '\n'
  | 'f' => some '\x0c'
  | 'r' => some '\r'
  | '"' => some '"'
  | '\\' => some '\\'
  | _ => none

def hexChar (src : Source) (room pos width : Nat) : Except Problem (Nat × List Char) := do
  let ds := slice src pos (pos + width)
  if ds.length ≠ width ∨ !ds.all isHexDigit then failIn src room pos "Invalid hex value"
  let code := ds.foldl (fun n c => 16 * n + hexValue c) 0
  need room .call
  if code ≤ 55295 ∨ (57344 ≤ code ∧ code ≤ 1114111) then pure (pos + width, [Char.ofNat code])
  else failIn src room (pos + width) "Escaped character is not a Unicode scalar value"

/-- Reads an escape at a backslash, with a room: answers the position after it and its
characters. In a multi-line string a backslash before blanks and a line break removes them
all. -/
def escape (src : Source) (room pos : Nat) (multiline : Bool) : Except Problem (Nat × List Char) := do
  let id := slice src pos (pos + 2)
  let after := pos + 2
  if multiline && (id == ['\\', ' '] || id == ['\\', '\t'] || id == ['\\', '\n']) then
    let next ← if id != ['\\', '\n'] then do
        need room .call
        let p := skipWhile src isBlank after
        match src[p]? with
        | none => return (p, [])
        | some c => if c != '\n' then failIn src room p "Unescaped '\\' in a string" else pure (p + 1)
      else pure after
    need room .call
    pure (skipWhile src isBlankOrBreak next, [])
  else if id == ['\\', 'u'] then do
    need room .call
    hexChar src (room - 1) after 4
  else if id == ['\\', 'U'] then do
    need room .call
    hexChar src (room - 1) after 8
  else match id with
    | [_, c] => match letterEscape? c with
      | some r => pure (after, [r])
      | none => failIn src room after "Unescaped '\\' in a string"
    | _ => failIn src room after "Unescaped '\\' in a string"

/-- Reads the body of a basic string from a position after its opening quotes, with a room
and `fuel` steps left; `done` holds the characters read before `start`. -/
def basicBody (src : Source) (room : Nat) (multiline : Bool) :
    Nat → Nat → Nat → List Char → Except Problem (Nat × List Char)
  | 0, pos, _, _ => failIn src room pos "Unterminated string"
  | fuel + 1, pos, start, done =>
    match src[pos]? with
    | none => failIn src room pos "Unterminated string"
    | some '"' =>
      if !multiline then pure (pos + 1, done ++ slice src start pos)
      else do
        need room .valueCall
        if startsAt src pos "\"\"\"" then pure (pos + 3, done ++ slice src start pos)
        else basicBody src room multiline fuel (pos + 1) start done
    | some '\\' => do
      need room .call
      let (next, chars) ← if multiline then do
          need (room - 1) .call
          escape src (room - 2) pos true
        else escape src (room - 1) pos false
      basicBody src room multiline fuel next next (done ++ slice src start pos ++ chars)
    | some c =>
      if (if multiline then refusedInLines c else refusedInLine c) then
        failIn src room pos ("Illegal character " ++ quote c.toString)
      else basicBody src room multiline fuel (pos + 1) start done

def basicString (src : Source) (room pos : Nat) (multiline : Bool) : Except Problem (Nat × List Char) :=
  basicBody src room multiline (src.size + 1) pos pos []

def oneLineString (src : Source) (room pos : Nat) : Except Problem (Nat × List Char) := do
  need room .call
  basicString src (room - 1) (pos + 1) false

def literalString (src : Source) (room pos : Nat) : Except Problem (Nat × List Char) := do
  need room .call
  let close ← skipUntil src (room - 1) (pos + 1) "'" refusedInLine true
  pure (close + 1, slice src (pos + 1) close)

/-- Reads a multi-line string at its opening delimiter, with a room; up to two more
delimiter characters right before the closing ones belong to the string. -/
def multilineString (src : Source) (room pos : Nat) (literal : Bool) :
    Except Problem (Nat × List Char) := do
  let pos := pos + 3
  need room .valueCall
  let pos := if startsAt src pos "\n" then pos + 1 else pos
  need room .call
  let (next, body) ← if literal then do
      let close ← skipUntil src (room - 1) pos "'''" refusedInLines true
      pure (close + 3, slice src pos close)
    else basicString src (room - 1) pos true
  let delim := if literal then '\'' else '"'
  if src[next]? != some delim then pure (next, body)
  else if src[next + 1]? != some delim then pure (next + 1, body ++ [delim])
  else pure (next + 2, body ++ [delim, delim])

/-- The end of a run `d (_? d)*` of digits of a class starting at a position, if a digit
stands there. -/
def digitRunEnd (src : Source) (digit : Char → Bool) (pos : Nat) : Option Nat :=
  let rec go (fuel pos : Nat) : Nat :=
    match fuel with
    | 0 => pos
    | fuel + 1 =>
      match src[pos]?, src[pos + 1]? with
      | some '_', some c => if digit c then go fuel (pos + 2) else pos
      | some c, _ => if digit c then go fuel (pos + 1) else pos
      | none, _ => pos
  match src[pos]? with
  | some c => if digit c then some (go src.size (pos + 1)) else none
  | none => none

/-- A number matched at a position: where it ends, and whether it has a fraction or an
exponent. -/
def matchNumber (src : Source) (pos : Nat) : Option (Nat × Bool) :=
  let based : Option Nat :=
    if src[pos]? == some '0' then
      match src[pos + 1]? with
      | some 'x' => digitRunEnd src isHexDigit (pos + 2)
      | some 'b' => digitRunEnd src (fun c => c = '0' ∨ c = '1') (pos + 2)
      | some 'o' => digitRunEnd src (fun c => '0' ≤ c ∧ c ≤ '7') (pos + 2)
      | _ => none
    else none
  match based with
  | some e => some (e, false)
  | none =>
    let start := if src[pos]? == some '+' ∨ src[pos]? == some '-' then pos + 1 else pos
    let whole : Option Nat :=
      match src[start]? with
      | some '0' => some (start + 1)
      | some c => if '1' ≤ c ∧ c ≤ '9' then digitRunEnd src isDigit start else none
      | none => none
    match whole with
    | none => none
    | some e =>
      let e1 := if src[e]? == some '.' then (digitRunEnd src isDigit (e + 1)).getD e else e
      let e2 :=
        if src[e1]? == some 'e' ∨ src[e1]? == some 'E' then
          let s := if src[e1 + 1]? == some '+' ∨ src[e1 + 1]? == some '-' then e1 + 2 else e1 + 1
          (digitRunEnd src isDigit s).getD e1
        else e1
      some (e2, e2 ≠ e)

def integerValue (text : List Char) : Except Problem Int :=
  let digits := text.filter (· != '_')
  let (neg, rest) := match digits with
    | '-' :: r => (true, r)
    | '+' :: r => (false, r)
    | r => (false, r)
  let (base, ds) : Nat × List Char := match rest with
    | '0' :: 'x' :: r => (16, r)
    | '0' :: 'o' :: r => (8, r)
    | '0' :: 'b' :: r => (2, r)
    | r => (10, r)
  if base = 10 ∧ ds.length > Reading.integerDigitLimit then .error (.tooManyDigits ds.length)
  else
    let n := ds.foldl (fun n c => base * n + hexValue c) 0
    pure (if neg then -(n : Int) else n)

def twoDigits? (src : Source) (pos : Nat) (low high : Nat) : Option Nat :=
  match src[pos]?, src[pos + 1]? with
  | some a, some b =>
    if a.isDigit && b.isDigit then
      let n := 10 * (a.toNat - '0'.toNat) + (b.toNat - '0'.toNat)
      if low ≤ n ∧ n ≤ high then some n else none
    else none
  | _, _ => none

/-- A time `HH:MM:SS` with an optional fraction at a position: where it ends, and the time
(six fraction digits kept, the rest skipped). -/
def matchTime (src : Source) (pos : Nat) : Option (Nat × TimeOfDay) := do
  let h ← twoDigits? src pos 0 23
  guard (src[pos + 2]? == some ':')
  let m ← twoDigits? src (pos + 3) 0 59
  guard (src[pos + 5]? == some ':')
  let s ← twoDigits? src (pos + 6) 0 59
  let e := pos + 8
  let fracStart := e + 1
  let fracEnd := skipWhile src isDigit fracStart
  if src[e]? == some '.' ∧ fracEnd > fracStart then
    let kept := (slice src fracStart fracEnd).take 6
    let micro := (kept ++ List.replicate (6 - kept.length) '0').foldl
      (fun n c => 10 * n + (c.toNat - '0'.toNat)) 0
    pure (fracEnd, ⟨h, m, s, micro, none⟩)
  else pure (e, ⟨h, m, s, 0, none⟩)

def monthDays (year month : Nat) : Nat :=
  if month = 2 then
    if year % 4 = 0 ∧ (year % 100 ≠ 0 ∨ year % 400 = 0) then 29 else 28
  else if month = 4 ∨ month = 6 ∨ month = 9 ∨ month = 11 then 30 else 31

/-- A date, or a date-time, at a position: where it ends and its value, or `none` if no
date stands there; the value is `none` for a date that does not exist. -/
def matchDateTime (src : Source) (pos : Nat) : Option (Nat × Option Value) := do
  let ys := slice src pos (pos + 4)
  guard (ys.length = 4 ∧ ys.all isDigit)
  let year := ys.foldl (fun n c => 10 * n + (c.toNat - '0'.toNat)) 0
  guard (src[pos + 4]? == some '-')
  let month ← twoDigits? src (pos + 5) 1 12
  guard (src[pos + 7]? == some '-')
  let day ← twoDigits? src (pos + 8) 1 31
  let dateEnd := pos + 10
  let date : Date := ⟨year, month, day⟩
  let valid := year ≥ 1 ∧ day ≤ monthDays year month
  let timed : Option (Nat × Value) :=
    match src[dateEnd]? with
    | some c =>
      if c = 'T' ∨ c = 't' ∨ c = ' ' then
        match matchTime src (dateEnd + 1) with
        | some (e, t) =>
          match src[e]? with
          | some 'Z' | some 'z' => some (e + 1, .datetime date { t with offset := some 0 })
          | some '+' | some '-' =>
            let sign : Int := if src[e]? == some '+' then 1 else -1
            match twoDigits? src (e + 1) 0 23, src[e + 3]?, twoDigits? src (e + 4) 0 59 with
            | some oh, some ':', some om =>
              some (e + 6, .datetime date { t with offset := some (sign * (60 * oh + om)) })
            | _, _, _ => some (e, .datetime date t)
          | _ => some (e, .datetime date t)
        | none => none
      else none
    | none => none
  let (e, v) := timed.getD (dateEnd, .date date)
  pure (e, if valid then some v else none)

end RestConfig.Toml
