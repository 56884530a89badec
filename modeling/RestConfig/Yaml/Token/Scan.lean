import RestConfig.Yaml.Token
import RestConfig.Text.Utf8
import RestConfig.Number.Reading

/-!
# Cutting a YAML stream into tokens

Tokens are made on demand: asking for the next token reads just enough of the stream to
know it. A token that may turn out to be the key of an implicit mapping (a *simple key*:
a scalar, alias, anchor, tag or flow collection on one line, at most 1024 characters
before its `:`) holds the queue back until the `:` is found or ruled out; when the `:`
comes, a key token (and, in block context, a block mapping start) is inserted before it.

Indentation is a stack of columns. A line that starts left of the current column closes
blocks (one block end each); a key or entry right of it opens a block mapping or
sequence. Inside flow collections (`[...]`, `{...}`) indentation means nothing.

Problems are reported as soon as they are met, with the construct being read and the
place where it started.

## Room

Tokenizing takes room (see `RestConfig.Depth`). Every step below that is written as a
`call` is one call deep: a look at a character, at a few characters, or a move past them,
each of which may fill the buffer with a new piece of the stream; taking a mark; and each
part of the work of finding a token. Building a token, a mark or an error calls a value
that runs a step; joining and extending texts, turning digits into a number or a code
into a character calls a value; a message that shows a character writes its
representation.
-/

namespace RestConfig.Yaml

open RestConfig.Text
open RestConfig.Utf8
open HasRoom

/-- A place where a simple key may start: the number of the token there, whether a key
is required there (a block line starting at the current indentation), and its place. -/
structure SimpleKey where
  tokenNumber : Nat
  required : Bool
  index : Nat
  line : Nat
  column : Nat
  mark : Mark
  deriving Inhabited

/-- Whether a possible simple key can no longer be one: it is on an earlier line or more
than 1024 characters back. -/
def SimpleKey.stale (key : SimpleKey) (s : Stream) : Bool :=
  key.line != s.line || s.pos - key.index > 1024

/-- The state of tokenizing: the stream, the tokens read ahead and not yet handed out,
how many were handed out, the indentation stack, the depth of flow collections, the
possible simple keys (one per flow depth, in the order they were found) and the room of
the running step. -/
structure Tokenizer where
  stream : Stream
  done : Bool
  flowLevel : Int
  queue : List Token
  taken : Nat
  indent : Int
  indents : List Int
  allowSimpleKey : Bool
  possibleKeys : List (Int × SimpleKey)
  room : Nat
  deriving Inhabited

instance : HasRoom Tokenizer := ⟨Tokenizer.room, fun t room => { t with room }⟩

abbrev Scan := StateT Tokenizer (Except Refusal)

namespace Scan

/-! ## Reading the stream -/

/-- One read of the text layer: it hands over up to a piece of text, calling down into
the decoder when it has to decode more of the stream (or finds its end). -/
def readRaw : Scan Unit := call do
  let (_, decoded, s) := (← get).stream.readPiece
  if decoded then callInto
  modify fun t => { t with stream := s }

/-- Looks for a character no stream may hold among those handed over since the buffer was
last filled, and refuses the first one. -/
def checkPrintable : Scan Unit := call do
  callValue
  let s := (← get).stream
  if let some (code, position) := s.firstDisallowedIn s.loaded s.delivered then
    callValue
    callValue
    callInto
    throw (.badCharacter code position)

/-- Fills the buffer with pieces until it holds `length` characters from the current one,
or its end; each test of whether it holds enough compares two values. -/
def refill (length : Nat) : Nat → Scan Unit
  | 0 => pure ()
  | fuel + 1 => do
    compareValues
    let s := (← get).stream
    if length ≤ s.loaded - s.pos then return
    if !s.exhausted then readRaw
    checkPrintable
    modify fun t =>
      { t with stream := { t.stream with loaded := t.stream.delivered, ended := t.stream.exhausted } }
    if !(← get).stream.ended then refill length fuel

/-- Makes the buffer hold `length` characters from the current one, unless its end is
already in it. -/
def update (length : Nat) : Scan Unit := call do
  let s := (← get).stream
  if !s.ended then refill length (s.size + 2)

def peek (k : Nat) : Scan Char := call do
  let s := (← get).stream
  if s.bufferEnd ≤ s.pos + k then update (k + 1)
  return (← get).stream.peek k

def ahead (n : Nat) : Scan String := call do
  let s := (← get).stream
  if s.bufferEnd ≤ s.pos + n then update n
  return String.ofList ((← get).stream.ahead n)

def forward (n : Nat) : Scan Unit := call do
  let s := (← get).stream
  if s.bufferEnd ≤ s.pos + n + 1 then update (n + 1)
  modify fun t => { t with stream := t.stream.forward n }

def getMark : Scan Mark := call do
  callInto
  return (← get).stream.mark

def budget : Scan Nat := return (← get).stream.chars.size + 1

def skipWhile (p : Char → Bool) : Nat → Scan Unit
  | 0 => pure ()
  | fuel + 1 => do
    if p (← peek 0) then
      forward 1
      skipWhile p fuel

/-- The length of the run of characters, from the `k`-th next one on, that satisfy `p`,
plus `k`. -/
def runLength (p : Char → Bool) : Nat → Nat → Scan Nat
  | 0, k => pure k
  | fuel + 1, k => do
    if p (← peek k) then runLength p fuel (k + 1) else pure k

/-- Reads a line break: CR LF, CR, LF and NEL become a line feed, U+2028 and U+2029 stay;
the empty text when there is none. -/
def lineBreak : Scan String := call do
  let c ← peek 0
  if c == '\r' || c == '\n' || c == '\x85' then
    if (← ahead 2) == "\r\n" then forward 2 else forward 1
    return "\n"
  else if c == '\u2028' || c == '\u2029' then
    forward 1
    return String.singleton c
  else return ""

/-! ## Failing and queueing -/

def shown (c : Char) : Scan String := do
  showValue
  return quote (String.singleton c)

def fail {α : Type} (context : Option String) (contextMark : Option Mark) (problem : String) :
    Scan α := do
  let m ← getMark
  callInto
  throw (Problem.make context contextMark problem m)

def push (kind : TokenKind) (start stop : Mark) : Scan Unit :=
  modify fun t => { t with queue := t.queue ++ [⟨kind, start, stop⟩] }

def emit (kind : TokenKind) (start stop : Mark) : Scan Unit := do
  callInto
  push kind start stop

def insertAt (number : Nat) (tok : Token) : Scan Unit :=
  modify fun t => { t with queue := t.queue.insertIdx (number - t.taken) tok }

def allowKey (b : Bool) : Scan Unit := modify fun t => { t with allowSimpleKey := b }

/-! ## Simple keys and indentation -/

def nearestKey (keys : List (Int × SimpleKey)) : Option Nat :=
  keys.foldl (fun acc (_, k) => match acc with
    | some n => some (min n k.tokenNumber)
    | none => some k.tokenNumber) none

def nextPossibleKey : Scan (Option Nat) := call do
  return nearestKey (← get).possibleKeys

/-- Drops the possible simple keys that are stale; a stale one that was required is a
problem. -/
def dropStaleKeys : Scan Unit := call do
  let t ← get
  for (_, key) in t.possibleKeys do
    if key.stale t.stream && key.required then
      fail (some "while scanning a simple key") (some key.mark) "could not find expected ':'"
  modify fun t =>
    { t with possibleKeys := t.possibleKeys.filter fun (_, key) => !key.stale t.stream }

/-- Forgets the possible simple key of the current flow depth; if it was required, that
is a problem. -/
def removeKey : Scan Unit := call do
  let t ← get
  if let some key := t.possibleKeys.lookup t.flowLevel then
    if key.required then
      fail (some "while scanning a simple key") (some key.mark) "could not find expected ':'"
    modify fun t => { t with possibleKeys := t.possibleKeys.filter (·.1 != t.flowLevel) }

/-- Notes that the next token may start a simple key, if one may start here; in block
context, whether a key is required here is found by comparing two values. -/
def saveKey : Scan Unit := call do
  let t ← get
  if t.flowLevel == 0 then compareValues
  let required := t.flowLevel == 0 && t.indent == (t.stream.column : Int)
  if t.allowSimpleKey then
    removeKey
    let t ← get
    let number := t.taken + t.queue.length
    let s := t.stream
    let m ← getMark
    callInto
    modify fun t => { t with possibleKeys :=
      t.possibleKeys ++ [(t.flowLevel, ⟨number, required, s.pos, s.line, s.column, m⟩)] }

def closeBlocks (column : Int) : Nat → Scan Unit
  | 0 => pure ()
  | fuel + 1 => do
    if (← get).indent > column then
      let m ← getMark
      modify fun t => { t with indent := t.indents.headD (-1), indents := t.indents.tail }
      emit .blockEnd m m
      closeBlocks column fuel

def unwindIndent (column : Int) : Scan Unit := call do
  let t ← get
  if t.flowLevel == 0 then closeBlocks column (t.indents.length + 1)

def addIndent (column : Int) : Scan Bool := call do
  let t ← get
  if t.indent < column then
    set { t with indents := t.indent :: t.indents, indent := column }
    return true
  else return false

/-! ## Directives -/

def directiveName (start : Mark) : Scan String := call do
  let n ← runLength isWordChar (← budget) 0
  if n == 0 then
    fail (some "while scanning a directive") (some start)
      ("expected alphabetic or numeric character, but found " ++
        (← shown ((← get).stream.peek n)))
  let name ← ahead n
  forward n
  let c ← peek 0
  if !(c == ' ' || isBreakOrEnd c) then
    fail (some "while scanning a directive") (some start)
      ("expected alphabetic or numeric character, but found " ++ (← shown c))
  return name

/-- A number of a `%YAML` version; one of more than 4300 digits is refused as a number
text too long to read. -/
def versionNumber (start : Mark) : Scan Nat := call do
  let c ← peek 0
  if !c.isDigit then
    fail (some "while scanning a directive") (some start)
      ("expected a digit, but found " ++ (← shown c))
  let n ← runLength Char.isDigit (← budget) 0
  let digits ← ahead n
  callValue
  if n > Reading.integerDigitLimit then
    throw (.unbuildable (.badLiteral (Reading.tooManyDigitsMessage n)))
  forward n
  return digits.foldl (fun acc d => acc * 10 + (d.toNat - '0'.toNat)) 0

def versionValue (start : Mark) : Scan DirectiveValue := call do
  skipWhile (· == ' ') (← budget)
  let major ← versionNumber start
  if (← peek 0) != '.' then
    fail (some "while scanning a directive") (some start)
      ("expected a digit or '.', but found " ++ (← shown (← peek 0)))
  forward 1
  let minor ← versionNumber start
  let c ← peek 0
  if !(c == ' ' || isBreakOrEnd c) then
    fail (some "while scanning a directive") (some start)
      ("expected a digit or ' ', but found " ++ (← shown (← peek 0)))
  return .version major minor

def tagHandle (what : String) (start : Mark) : Scan String := call do
  let c ← peek 0
  if c != '!' then
    fail (some ("while scanning a " ++ what)) (some start)
      ("expected '!', but found " ++ (← shown c))
  let c ← peek 1
  let length ←
    if c != ' ' then do
      let n ← runLength isWordChar (← budget) 1
      let c := (← get).stream.peek n
      if c != '!' then
        forward n
        fail (some ("while scanning a " ++ what)) (some start)
          ("expected '!', but found " ++ (← shown c))
      pure (n + 1)
    else pure 1
  let value ← ahead length
  forward length
  return value

def isUriChar (c : Char) : Bool :=
  ('0' ≤ c && c ≤ '9') || ('A' ≤ c && c ≤ 'Z') || ('a' ≤ c && c ≤ 'z') ||
    "-;/?:@&=+$,_.!~*'()[]%".contains c

def escapeBytes (what : String) (start : Mark) : Nat → List UInt8 → Scan (List UInt8)
  | 0, acc => pure acc
  | fuel + 1, acc => do
    if (← peek 0) != '%' then return acc
    forward 1
    compareValues
    for k in [0, 1] do
      if !isHexChar (← peek k) then
        fail (some ("while scanning a " ++ what)) (some start)
          ("expected URI escape sequence of 2 hexadecimal numbers, but found " ++
            (← shown (← peek k)))
    let digits ← ahead 2
    callValue
    forward 2
    let byte := digits.foldl (fun acc d => acc * 16 + hexValue d) 0
    escapeBytes what start fuel (acc ++ [byte.toUInt8])

def uriEscapes (what : String) (start : Mark) : Scan String := call do
  let m ← getMark
  let bytes ← escapeBytes what start (← budget) []
  callValue
  match decode bytes with
  | .ok s => return s
  | .error e =>
    textValue
    callInto
    throw (Problem.make (some ("while scanning a " ++ what)) (some start) e.message m)

/-- The pieces of a URI up to its first character that may not stand in one: the length
of the plain run not yet read, how many pieces were read, their text and the character
that ends the URI. -/
def uriPieces (what : String) (start : Mark) :
    Nat → Nat → Nat → String → Scan (Nat × Nat × String × Char)
  | 0, length, count, acc => return (length, count, acc, (← get).stream.peek length)
  | fuel + 1, length, count, acc => do
    let c ← peek length
    if !isUriChar c then return (length, count, acc, c)
    if c == '%' then
      let piece ← ahead length
      forward length
      let escaped ← uriEscapes what start
      uriPieces what start fuel 0 (count + 2) (acc ++ piece ++ escaped)
    else uriPieces what start fuel (length + 1) count acc

def tagUri (what : String) (start : Mark) : Scan String := call do
  let (length, count, acc, c) ← uriPieces what start (2 * (← budget)) 0 0 ""
  let (count, acc) ←
    if length > 0 then do
      let piece ← ahead length
      forward length
      pure (count + 1, acc ++ piece)
    else pure (count, acc)
  if count == 0 then
    fail (some ("while parsing a " ++ what)) (some start)
      ("expected URI, but found " ++ (← shown c))
  callValue
  return acc

def tagDirectiveHandle (start : Mark) : Scan String := call do
  let value ← tagHandle "directive" start
  let c ← peek 0
  if c != ' ' then
    fail (some "while scanning a directive") (some start)
      ("expected ' ', but found " ++ (← shown c))
  return value

def tagDirectiveExpansion (start : Mark) : Scan String := call do
  let value ← tagUri "directive" start
  let c ← peek 0
  if !(c == ' ' || isBreakOrEnd c) then
    fail (some "while scanning a directive") (some start)
      ("expected ' ', but found " ++ (← shown c))
  return value

def tagDirectiveValue (start : Mark) : Scan DirectiveValue := call do
  skipWhile (· == ' ') (← budget)
  let handle ← tagDirectiveHandle start
  skipWhile (· == ' ') (← budget)
  let expansion ← tagDirectiveExpansion start
  return .handle handle expansion

def directiveLineEnd (start : Mark) : Scan Unit := call do
  skipWhile (· == ' ') (← budget)
  if (← peek 0) == '#' then skipWhile (fun c => !isBreakOrEnd c) (← budget)
  let c ← peek 0
  if !isBreakOrEnd c then
    fail (some "while scanning a directive") (some start)
      ("expected a comment or a line break, but found " ++ (← shown c))
  discard lineBreak

def scanDirective : Scan Token := call do
  let start ← getMark
  forward 1
  let name ← directiveName start
  let (value, stop) ←
    if name == "YAML" then do
      let v ← versionValue start
      pure (v, ← getMark)
    else if name == "TAG" then do
      let v ← tagDirectiveValue start
      pure (v, ← getMark)
    else do
      let m ← getMark
      skipWhile (fun c => !isBreakOrEnd c) (← budget)
      pure (DirectiveValue.none, m)
  directiveLineEnd start
  callInto
  return ⟨.directive name value, start, stop⟩

/-! ## Anchors, aliases and tags -/

def scanAnchor (isAlias : Bool) : Scan Token := call do
  let start ← getMark
  let what := if (← peek 0) == '*' then "while scanning an alias" else "while scanning an anchor"
  forward 1
  let n ← runLength isWordChar (← budget) 0
  if n == 0 then
    fail (some what) (some start)
      ("expected alphabetic or numeric character, but found " ++
        (← shown ((← get).stream.peek n)))
  let name ← ahead n
  forward n
  let c ← peek 0
  if !(isBlankOrEnd c || "?:,]\x7d%@`".contains c) then
    fail (some what) (some start)
      ("expected alphabetic or numeric character, but found " ++ (← shown c))
  let stop ← getMark
  callInto
  return ⟨if isAlias then .alias name else .anchor name, start, stop⟩

/-- Whether the text from the `k`-th next character on, starting with `c`, holds a `!`
before a blank or the end of the line (tabs do not end it). -/
def handleAhead : Nat → Nat → Char → Scan Bool
  | 0, _, _ => pure false
  | fuel + 1, k, c => do
    if c == ' ' || isBreakOrEnd c then return false
    if c == '!' then return true
    handleAhead fuel (k + 1) (← peek (k + 1))

def scanTag : Scan Token := call do
  let start ← getMark
  let c ← peek 1
  let (handle, suffix) ←
    if c == '<' then do
      forward 2
      let suffix ← tagUri "tag" start
      if (← peek 0) != '>' then
        fail (some "while parsing a tag") (some start)
          ("expected '>', but found " ++ (← shown (← peek 0)))
      forward 1
      pure (none, suffix)
    else if isBlankOrEnd c then do
      forward 1
      pure (none, "!")
    else do
      let handle ←
        if ← handleAhead (← budget) 1 c then tagHandle "tag" start
        else do
          forward 1
          pure "!"
      let suffix ← tagUri "tag" start
      pure (some handle, suffix)
  let c ← peek 0
  if !(c == ' ' || isBreakOrEnd c) then
    fail (some "while scanning a tag") (some start) ("expected ' ', but found " ++ (← shown c))
  let stop ← getMark
  callInto
  return ⟨.tag handle suffix, start, stop⟩

/-! ## Block scalars -/

def indentationIndicator (start : Mark) (c : Char) : Scan Nat := do
  callValue
  if c == '0' then
    fail (some "while scanning a block scalar") (some start)
      "expected indentation indicator in the range 1-9, but found 0"
  forward 1
  return c.toNat - '0'.toNat

/-- The chomping (`+` keep, `-` strip) and indentation indicators of a block scalar. -/
def blockIndicators (start : Mark) : Scan (Option Bool × Option Nat) := call do
  let c ← peek 0
  let result ←
    if c == '+' || c == '-' then do
      forward 1
      let d ← peek 0
      let increment ← if d.isDigit then some <$> indentationIndicator start d else pure none
      pure (some (c == '+'), increment)
    else if c.isDigit then do
      let increment ← indentationIndicator start c
      let d ← peek 0
      let chomping ←
        if d == '+' || d == '-' then do
          forward 1
          pure (some (d == '+'))
        else pure none
      pure (chomping, some increment)
    else pure (none, none)
  let c ← peek 0
  if !(c == ' ' || isBreakOrEnd c) then
    fail (some "while scanning a block scalar") (some start)
      ("expected chomping or indentation indicators, but found " ++ (← shown c))
  return result

def blockLineEnd (start : Mark) : Scan Unit := call do
  skipWhile (· == ' ') (← budget)
  if (← peek 0) == '#' then skipWhile (fun c => !isBreakOrEnd c) (← budget)
  let c ← peek 0
  if !isBreakOrEnd c then
    fail (some "while scanning a block scalar") (some start)
      ("expected a comment or a line break, but found " ++ (← shown c))
  discard lineBreak

/-- Leading blank lines of a block scalar: their breaks, the deepest column reached, and
the mark after the last break. -/
def indentationLines : Nat → List String → Nat → Mark → Scan (List String × Nat × Mark)
  | 0, breaks, deepest, stop => pure (breaks, deepest, stop)
  | fuel + 1, breaks, deepest, stop => do
    let c ← peek 0
    if c == ' ' then
      forward 1
      indentationLines fuel breaks (max deepest (← get).stream.column) stop
    else if isBreak c then
      let b ← lineBreak
      let m ← getMark
      indentationLines fuel (breaks ++ [b]) deepest m
    else pure (breaks, deepest, stop)

def blockIndentation : Scan (List String × Nat × Mark) := call do
  let stop ← getMark
  indentationLines (← budget) [] 0 stop

def skipIndentation (indent : Nat) : Nat → Scan Unit
  | 0 => pure ()
  | fuel + 1 => do
    if (← get).stream.column < indent then
      if (← peek 0) == ' ' then
        forward 1
        skipIndentation indent fuel

def breakLines (indent : Nat) : Nat → List String → Mark → Scan (List String × Mark)
  | 0, breaks, stop => pure (breaks, stop)
  | fuel + 1, breaks, stop => do
    if isBreak (← peek 0) then
      let b ← lineBreak
      let m ← getMark
      skipIndentation indent (← budget)
      breakLines indent fuel (breaks ++ [b]) m
    else pure (breaks, stop)

/-- Empty lines inside a block scalar: their breaks and the mark after the last one. -/
def blockBreaks (indent : Nat) : Scan (List String × Mark) := call do
  let stop ← getMark
  skipIndentation indent (← budget)
  breakLines indent (← budget) [] stop

def blockGoesOn (indent : Nat) : Scan Bool := do
  if (← get).stream.column == indent then return (← peek 0) != '\x00'
  return false

/-- The lines of a block scalar at its indentation, folded or kept. Returns the text,
the last line break, the trailing empty lines and the end mark. -/
def blockLines (folded : Bool) (indent : Nat) :
    Nat → String → List String → String → Mark → Scan (String × String × List String × Mark)
  | 0, acc, breaks, lastBreak, stop => pure (acc, lastBreak, breaks, stop)
  | fuel + 1, acc, breaks, lastBreak, stop => do
    if !(← blockGoesOn indent) then return (acc, lastBreak, breaks, stop)
    callValue
    let acc := acc ++ String.join breaks
    let c ← peek 0
    let leadingNonSpace := !(c == ' ' || c == '\t')
    let n ← runLength (fun c => !isBreakOrEnd c) (← budget) 0
    let acc := acc ++ (← ahead n)
    forward n
    let lineEnd ← lineBreak
    let (breaks, stop) ← blockBreaks indent
    if !(← blockGoesOn indent) then return (acc, lineEnd, breaks, stop)
    let fold ←
      if folded && lineEnd == "\n" && leadingNonSpace then do
        let c ← peek 0
        pure !(c == ' ' || c == '\t')
      else pure false
    let acc := if fold then (if breaks.isEmpty then acc ++ " " else acc) else acc ++ lineEnd
    blockLines folded indent fuel acc breaks lineEnd stop

def scanBlockScalar (folded : Bool) : Scan Token := call do
  let start ← getMark
  forward 1
  let (chomping, increment) ← blockIndicators start
  blockLineEnd start
  let t ← get
  let least : Nat := if t.indent + 1 < 1 then 1 else (t.indent + 1).toNat
  let (breaks, indent, stop) ← match increment with
    | none => do
      let (breaks, deepest, stop) ← blockIndentation
      callValue
      need 2 .comparison
      pure (breaks, max least deepest, stop)
    | some inc => do
      let indent := least + inc - 1
      let (breaks, stop) ← blockBreaks indent
      pure (breaks, indent, stop)
  let (text, lastBreak, breaks, stop) ← blockLines folded indent (← budget) "" breaks "" stop
  let text := if chomping != some false then text ++ lastBreak else text
  let text ←
    if chomping == some true then do
      callValue
      pure (text ++ String.join breaks)
    else pure text
  callValue
  callInto
  return ⟨.scalar text false (if folded then .folded else .literal), start, stop⟩

/-! ## Quoted scalars -/

def escapeReplacement (c : Char) : Option Char :=
  match c with
  | '0' => some '\x00' | 'a' => some '\x07' | 'b' => some '\x08' | 't' => some '\t'
  | '\t' => some '\t' | 'n' => some '\n' | 'v' => some '\x0B' | 'f' => some '\x0C'
  | 'r' => some '\r' | 'e' => some '\x1B' | ' ' => some ' ' | '"' => some '"'
  | '\\' => some '\\' | '/' => some '/' | 'N' => some '\x85' | '_' => some '\xA0'
  | 'L' => some '\u2028' | 'P' => some '\u2029'
  | _ => none

def escapeCodeLength (c : Char) : Option Nat :=
  match c with
  | 'x' => some 2 | 'u' => some 4 | 'U' => some 8
  | _ => none

/-- Whether the next characters are a document marker (`---` or `...`) followed by a
blank or the end. -/
def atDocumentMarker : Scan Bool := do
  let marker ← ahead 3
  if marker == "---" || marker == "..." then return isBlankOrEnd (← peek 3)
  return false

/-- Line breaks inside a quoted scalar, after the first: their texts. A document marker
at the start of a line is a problem. -/
def quotedBreakLines (start : Mark) : Nat → List String → Scan (List String)
  | 0, acc => pure acc
  | fuel + 1, acc => do
    if ← atDocumentMarker then
      fail (some "while scanning a quoted scalar") (some start) "found unexpected document separator"
    skipWhile (fun c => c == ' ' || c == '\t') (← budget)
    if isBreak (← peek 0) then
      let b ← lineBreak
      quotedBreakLines start fuel (acc ++ [b])
    else pure acc

def quotedBreaks (start : Mark) : Scan (List String) := call do
  quotedBreakLines start (← budget) []

/-- A code point as a character; a code point beyond Unicode fails the way turning it
into a character does. -/
def codeChar (code : Nat) : Scan Char := do
  callValue
  if code ≥ 0x110000 then throw (.unbuildable (.badLiteral "chr() arg not in range(0x110000)"))
  return Char.ofNat code

def escaped (start : Mark) : Scan String := do
  forward 1
  let c ← peek 0
  match escapeReplacement c, escapeCodeLength c with
  | some r, _ =>
    forward 1
    return String.singleton r
  | none, some length =>
    forward 1
    compareValues
    for k in List.range length do
      if !isHexChar (← peek k) then
        fail (some "while scanning a double-quoted scalar") (some start)
          ("expected escape sequence of " ++ toString length ++
            " hexadecimal numbers, but found " ++ (← shown (← peek k)))
    let digits ← ahead length
    callValue
    let code := digits.foldl (fun acc d => acc * 16 + hexValue d) 0
    let ch ← codeChar code
    forward length
    return String.singleton ch
  | none, none =>
    if isBreak c then
      discard lineBreak
      let breaks ← quotedBreaks start
      callValue
      return String.join breaks
    else
      fail (some "while scanning a double-quoted scalar") (some start)
        ("found unknown escape character " ++ (← shown c))

/-- The non-blank parts of a quoted scalar from the next character on, with escapes and
doubled quotes read. -/
def nonSpaceParts (double : Bool) (start : Mark) : Nat → String → Scan String
  | 0, acc => pure acc
  | fuel + 1, acc => do
    let n ← runLength (fun c => !(c == '\'' || c == '"' || c == '\\' || isBlankOrEnd c))
      (← budget) 0
    let acc ←
      if n > 0 then do
        let piece ← ahead n
        forward n
        pure (acc ++ piece)
      else pure acc
    let c ← peek 0
    if !double && c == '\'' then
      if (← peek 1) == '\'' then
        forward 2
        return ← nonSpaceParts double start fuel (acc ++ "'")
      return acc
    if (double && c == '\'') || (!double && (c == '"' || c == '\\')) then
      forward 1
      return ← nonSpaceParts double start fuel (acc.push c)
    if double && c == '\\' then
      let text ← escaped start
      return ← nonSpaceParts double start fuel (acc ++ text)
    return acc

def quotedText (double : Bool) (start : Mark) : Scan String := call do
  nonSpaceParts double start (← budget) ""

def quotedSpaces (start : Mark) : Scan String := call do
  let n ← runLength (fun c => c == ' ' || c == '\t') (← budget) 0
  let blanks ← ahead n
  forward n
  let c ← peek 0
  if c == '\x00' then
    fail (some "while scanning a quoted scalar") (some start) "found unexpected end of stream"
  if isBreak c then
    let lineEnd ← lineBreak
    let breaks ← quotedBreaks start
    callValue
    let head := if lineEnd != "\n" then lineEnd else if breaks.isEmpty then " " else ""
    return head ++ String.join breaks
  return blanks

def quotedRest (double : Bool) (quote : Char) (start : Mark) : Nat → String → Scan String
  | 0, acc => pure acc
  | fuel + 1, acc => do
    if (← peek 0) == quote then return acc
    let spaces ← quotedSpaces start
    callValue
    let text ← quotedText double start
    callValue
    quotedRest double quote start fuel (acc ++ spaces ++ text)

def scanFlowScalar (double : Bool) : Scan Token := call do
  let start ← getMark
  let quote ← peek 0
  forward 1
  let text ← quotedText double start
  callValue
  let text ← quotedRest double quote start (← budget) text
  forward 1
  let stop ← getMark
  callValue
  callInto
  return ⟨.scalar text false (if double then .doubleQuoted else .singleQuoted), start, stop⟩

/-! ## Plain scalars -/

/-- The length of the next piece of a plain scalar from the `k`-th next character on,
plus `k`: it ends at a blank, at `: ` (also `:,` and the like in flow context), and at
flow indicators in flow context. -/
def plainLength (flow : Bool) : Nat → Nat → Scan Nat
  | 0, k => pure k
  | fuel + 1, k => do
    let c ← peek k
    if isBlankOrEnd c then return k
    if c == ':' then
      let next ← peek (k + 1)
      if isBlankOrEnd next || (flow && ",[]\x7b\x7d".contains next) then return k
    if flow && ",?[]\x7b\x7d".contains c then return k
    plainLength flow fuel (k + 1)

/-- The blank lines inside a plain scalar, after its first line break; nothing when a
document marker starts a line. -/
def plainBreaks : Nat → List String → Scan (Option (List String))
  | 0, acc => pure (some acc)
  | fuel + 1, acc => do
    let c ← peek 0
    if c == ' ' then
      forward 1
      plainBreaks fuel acc
    else if isBreak c then
      let b ← lineBreak
      if ← atDocumentMarker then return none
      plainBreaks fuel (acc ++ [b])
    else pure (some acc)

/-- The blanks after a piece of a plain scalar: the text they fold to, or nothing when
the scalar ends there (at a document marker). -/
def plainSpaces : Scan (Option String) := call do
  let n ← runLength (· == ' ') (← budget) 0
  let blanks ← ahead n
  forward n
  if isBreak (← peek 0) then
    let lineEnd ← lineBreak
    allowKey true
    if ← atDocumentMarker then return none
    match ← plainBreaks (← budget) [] with
    | none => return none
    | some breaks =>
      callValue
      let head := if lineEnd != "\n" then lineEnd else if breaks.isEmpty then " " else ""
      return some (head ++ String.join breaks)
  else return some blanks

def plainPieces (indent : Int) : Nat → String → String → Mark → Scan (String × Mark)
  | 0, acc, _, stop => pure (acc, stop)
  | fuel + 1, acc, spaces, stop => do
    if (← peek 0) == '#' then return (acc, stop)
    let n ← plainLength ((← get).flowLevel != 0) (← budget) 0
    if n == 0 then return (acc, stop)
    allowKey false
    callValue
    let acc := acc ++ spaces ++ (← ahead n)
    forward n
    let stop ← getMark
    let some spaces ← plainSpaces | return (acc, stop)
    if spaces.isEmpty then return (acc, stop)
    if (← peek 0) == '#' then return (acc, stop)
    let t ← get
    if t.flowLevel == 0 && (t.stream.column : Int) < indent then return (acc, stop)
    plainPieces indent fuel acc spaces stop

def scanPlain : Scan Token := call do
  let start ← getMark
  let indent := (← get).indent + 1
  let (text, stop) ← plainPieces indent (← budget) "" "" start
  callValue
  callInto
  return ⟨.scalar text true .plain, start, stop⟩

/-! ## Choosing the next token -/

/-- Skips blanks, comments and line breaks up to the next token; a line break in block
context allows a simple key. -/
def skipToToken : Nat → Scan Unit
  | 0 => pure ()
  | fuel + 1 => do
    skipWhile (· == ' ') (← budget)
    if (← peek 0) == '#' then skipWhile (fun c => !isBreakOrEnd c) (← budget)
    if (← lineBreak) != "" then
      if (← get).flowLevel == 0 then allowKey true
      skipToToken fuel

/-- Skips a byte order mark at the very start, then everything up to the next token. -/
def scanToNextToken : Scan Unit := call do
  if (← get).stream.pos == 0 then
    if (← peek 0) == '\uFEFF' then forward 1
  skipToToken (← budget)

def fetchStreamEnd : Scan Unit := call do
  unwindIndent (-1)
  removeKey
  modify fun t => { t with allowSimpleKey := false, possibleKeys := [] }
  let m ← getMark
  emit .streamEnd m m
  modify fun t => { t with done := true }

def fetchDirective : Scan Unit := call do
  unwindIndent (-1)
  removeKey
  allowKey false
  let tok ← scanDirective
  push tok.kind tok.start tok.stop

def fetchDocumentIndicator (kind : TokenKind) : Scan Unit := call do
  unwindIndent (-1)
  removeKey
  allowKey false
  let start ← getMark
  forward 3
  let stop ← getMark
  emit kind start stop

def fetchFlowCollectionStart (kind : TokenKind) : Scan Unit := call do
  saveKey
  modify fun t => { t with flowLevel := t.flowLevel + 1 }
  allowKey true
  let start ← getMark
  forward 1
  let stop ← getMark
  emit kind start stop

def fetchFlowCollectionEnd (kind : TokenKind) : Scan Unit := call do
  removeKey
  modify fun t => { t with flowLevel := t.flowLevel - 1 }
  allowKey false
  let start ← getMark
  forward 1
  let stop ← getMark
  emit kind start stop

def fetchFlowEntry : Scan Unit := call do
  allowKey true
  removeKey
  let start ← getMark
  forward 1
  let stop ← getMark
  emit .flowEntry start stop

/-- Opens a block at the current column, with a token of `kind`, if it lies right of the
current indentation. -/
def openBlock (kind : TokenKind) : Scan Unit := do
  if ← addIndent (← get).stream.column then
    let m ← getMark
    emit kind m m

def fetchBlockEntry : Scan Unit := call do
  if (← get).flowLevel == 0 then
    if !(← get).allowSimpleKey then fail none none "sequence entries are not allowed here"
    openBlock .blockSequenceStart
  allowKey true
  removeKey
  let start ← getMark
  forward 1
  let stop ← getMark
  emit .blockEntry start stop

def fetchKey : Scan Unit := call do
  if (← get).flowLevel == 0 then
    if !(← get).allowSimpleKey then fail none none "mapping keys are not allowed here"
    openBlock .blockMappingStart
  allowKey ((← get).flowLevel == 0)
  removeKey
  let start ← getMark
  forward 1
  let stop ← getMark
  emit .key start stop

/-- A value indicator `:`. A pending simple key becomes a key, opening a block mapping at
its column if needed. -/
def fetchValue : Scan Unit := call do
  let t ← get
  match t.possibleKeys.lookup t.flowLevel with
  | some key =>
    set { t with possibleKeys := t.possibleKeys.filter (·.1 != t.flowLevel) }
    callInto
    insertAt key.tokenNumber ⟨.key, key.mark, key.mark⟩
    if t.flowLevel == 0 then
      if ← addIndent key.column then
        callInto
        insertAt key.tokenNumber ⟨.blockMappingStart, key.mark, key.mark⟩
    allowKey false
  | none =>
    if t.flowLevel == 0 then
      if !t.allowSimpleKey then fail none none "mapping values are not allowed here"
      openBlock .blockMappingStart
    allowKey (t.flowLevel == 0)
    removeKey
  let start ← getMark
  forward 1
  let stop ← getMark
  emit .value start stop

def fetchAnchor (isAlias : Bool) : Scan Unit := call do
  saveKey
  allowKey false
  let tok ← scanAnchor isAlias
  push tok.kind tok.start tok.stop

def fetchTag : Scan Unit := call do
  saveKey
  allowKey false
  let tok ← scanTag
  push tok.kind tok.start tok.stop

def fetchBlockScalar (folded : Bool) : Scan Unit := call do
  allowKey true
  removeKey
  let tok ← scanBlockScalar folded
  push tok.kind tok.start tok.stop

def fetchFlowScalar (double : Bool) : Scan Unit := call do
  saveKey
  allowKey false
  let tok ← scanFlowScalar double
  push tok.kind tok.start tok.stop

def fetchPlain : Scan Unit := call do
  saveKey
  allowKey false
  let tok ← scanPlain
  push tok.kind tok.start tok.stop

def atDirective : Scan Bool := call do
  return (← get).stream.column == 0

/-- Whether a document marker (`---` or `...`, as `marker` says) starts here: at the
start of a line, followed by a blank or the end. -/
def atDocumentIndicator (marker : String) : Scan Bool := call do
  if (← get).stream.column == 0 then
    if (← ahead 3) == marker then return isBlankOrEnd (← peek 3)
  return false

def blankFollows : Scan Bool := call do
  return isBlankOrEnd (← peek 1)

/-- Whether a key or value indicator stands here: always in flow context, and before a
blank or the end in block context. -/
def atKeyOrValue : Scan Bool := call do
  if (← get).flowLevel != 0 then return true
  return isBlankOrEnd (← peek 1)

def atPlain : Scan Bool := call do
  let c ← peek 0
  if !(isBlankOrEnd c || "-?:,[]\x7b\x7d#&*!|>'\"%@`".contains c) then return true
  if isBlankOrEnd (← peek 1) then return false
  return c == '-' || ((← get).flowLevel == 0 && (c == '?' || c == ':'))

def fetchMore : Scan Unit := call do
  scanToNextToken
  dropStaleKeys
  unwindIndent (← get).stream.column
  let c ← peek 0
  let flow := (← get).flowLevel != 0
  if c == '\x00' then return ← fetchStreamEnd
  if c == '%' then
    if ← atDirective then return ← fetchDirective
  if c == '-' then
    if ← atDocumentIndicator "---" then return ← call (fetchDocumentIndicator .documentStart)
  if c == '.' then
    if ← atDocumentIndicator "..." then return ← call (fetchDocumentIndicator .documentEnd)
  if c == '[' then return ← call (fetchFlowCollectionStart .flowSequenceStart)
  if c == '{' then return ← call (fetchFlowCollectionStart .flowMappingStart)
  if c == ']' then return ← call (fetchFlowCollectionEnd .flowSequenceEnd)
  if c == '}' then return ← call (fetchFlowCollectionEnd .flowMappingEnd)
  if c == ',' then return ← fetchFlowEntry
  if c == '-' then
    if ← blankFollows then return ← fetchBlockEntry
  if c == '?' then
    if ← atKeyOrValue then return ← fetchKey
  if c == ':' then
    if ← atKeyOrValue then return ← fetchValue
  if c == '*' then return ← fetchAnchor true
  if c == '&' then return ← fetchAnchor false
  if c == '!' then return ← fetchTag
  if c == '|' && !flow then return ← call (fetchBlockScalar false)
  if c == '>' && !flow then return ← call (fetchBlockScalar true)
  if c == '\'' then return ← call (fetchFlowScalar false)
  if c == '"' then return ← call (fetchFlowScalar true)
  if ← atPlain then return ← fetchPlain
  fail (some "while scanning for the next token") none
    ("found character " ++ (← shown c) ++ " that cannot start any token")

/-- Whether more of the stream must be read before the next token is known: the queue is
empty, or its head may still become part of a simple key. -/
def needMore : Scan Bool := call do
  let t ← get
  if t.done then return false
  if t.queue.isEmpty then return true
  dropStaleKeys
  let nearest ← nextPossibleKey
  return nearest == some (← get).taken

def fill : Nat → Scan Unit
  | 0 => pure ()
  | fuel + 1 => do
    if ← needMore then
      fetchMore
      fill fuel

end Scan

namespace Tokenizer

open Scan

/-- The state at the start of a text, with the buffer filled as reading begins and the
stream start token queued. -/
def start (text : String) : Except Refusal Tokenizer := do
  let s ← Stream.start text
  return { stream := s, done := false, flowLevel := 0, queue := [⟨.streamStart, s.mark, s.mark⟩],
           taken := 0, indent := -1, indents := [], allowSimpleKey := true, possibleKeys := [],
           room := 0 }

/-- A look at the tokens from a step with a room: a call that reads until the next token
is known. -/
def look (room : Nat) (t : Tokenizer) : Except Refusal Tokenizer := do
  let ((), t) ← StateT.run (call (fill (t.stream.chars.size * 4 + 8))) { t with room }
  return t

def peek? (room : Nat) (t : Tokenizer) : Except Refusal (Option Token × Tokenizer) := do
  let t ← t.look room
  return (t.queue.head?, t)

def next? (room : Nat) (t : Tokenizer) : Except Refusal (Option Token × Tokenizer) := do
  let t ← t.look room
  match t.queue with
  | k :: rest => return (some k, { t with queue := rest, taken := t.taken + 1 })
  | [] => return (none, t)

end Tokenizer

end RestConfig.Yaml
