import RestConfig.Text.Utf8
import RestConfig.Text.Newline
import RestConfig.Depth

/-!
# YAML character streams and marks

A YAML stream is read as an array of characters followed by a NUL that marks its end.
Reading keeps the line and the column of the next character: a line feed, NEL, U+2028,
U+2029 or a carriage return not followed by a line feed starts a new line, and a byte
order mark takes no column.

A *mark* is a place in the stream, shown as `in "name", line L, column C` (counted from
one). A problem found while reading is reported with an optional *context* (what was
being read, with its mark) and the *problem* itself (with its mark); the context's mark
is left out when it is the problem's mark.

Only some characters may appear in a stream at all: tab, line feed, carriage return,
the printable ASCII characters, NEL, and everything from U+00A0 up except surrogates,
U+FFFE and U+FFFF.

## Reading in pieces

A stream read from a file comes into the buffer in pieces of `pieceSize` characters,
which the text layer below decodes from blocks of `Utf8.blockSize` bytes. At the start
the buffer is filled with two pieces, or with the whole text and its end when the text
fits in one piece; after that a piece is read whenever a look ahead reaches past the
buffer, and the end of the text is found by a read that gets nothing. Characters that no
stream may hold are looked for in each piece as it comes in.
-/

namespace RestConfig.Yaml

open RestConfig.Text

/-- A place in a stream. -/
structure Mark where
  line : Nat
  column : Nat
  deriving DecidableEq, Inhabited

/-- A problem found while reading a document: what was being read and where, what went
wrong and where. -/
structure Problem where
  context : Option String
  contextMark : Option Mark
  problem : Option String
  problemMark : Option Mark
  deriving Inhabited

/-- Why a node's value could not be built, outside the rules of the format. -/
inductive Unbuildable where
  | badLiteral (message : String)
  | notBoolean (word : String)
  | emptyNumber
  | notTimestamp
  | timestampOfMapping
  | placeTooLarge
  | tooDeep
  deriving Inhabited

def Unbuildable.message : Unbuildable → String
  | .badLiteral m => m
  | .notBoolean w => w
  | .emptyNumber => "string index out of range"
  | .notTimestamp => "'NoneType' object has no attribute 'groupdict'"
  | .timestampOfMapping => "expected string or bytes-like object, got 'list'"
  | .placeTooLarge => "int too large to convert to float"
  | .tooDeep => "maximum recursion depth exceeded"

/-- Why a stream could not be loaded. -/
inductive Refusal where
  | badCharacter (code : Nat) (position : Nat)
  | marked (p : Problem)
  | unbuildable (u : Unbuildable)
  | tooDeep (site : Site)
  deriving Inhabited

def Problem.make (context : Option String) (contextMark : Option Mark) (problem : String)
    (problemMark : Mark) : Refusal :=
  .marked ⟨context, contextMark, some problem, some problemMark⟩

def Mark.show (name : String) (m : Mark) : String :=
  "  in \"" ++ name ++ "\", line " ++ toString (m.line + 1) ++ ", column " ++ toString (m.column + 1)

def Problem.message (name : String) (p : Problem) : String :=
  let contextMark := match p.contextMark with
    | some cm =>
      match p.problem, p.problemMark with
      | some _, some pm => if cm = pm then [] else [cm.show name]
      | _, _ => [cm.show name]
    | none => []
  let lines := p.context.toList ++ contextMark ++ p.problem.toList ++
    (p.problemMark.map (·.show name)).toList
  "\n".intercalate lines

def Refusal.message (name : String) : Refusal → String
  | .badCharacter code position =>
    "unacceptable character #x" ++ String.ofList (hexDigits code 4) ++
      ": special characters are not allowed\n  in \"" ++ name ++ "\", position " ++
      toString position
  | .marked p => p.message name
  | .unbuildable u => u.message
  | .tooDeep site => site.message

def allowed (c : Char) : Bool :=
  let n := c.toNat
  n = 0x09 || n = 0x0A || n = 0x0D || (0x20 ≤ n && n ≤ 0x7E) || n = 0x85 ||
    (0xA0 ≤ n && n ≤ 0xD7FF) || (0xE000 ≤ n && n ≤ 0xFFFD) || 0x10000 ≤ n

def isBreak (c : Char) : Bool :=
  c = '\r' || c = '\n' || c = '\x85' || c = '\u2028' || c = '\u2029'

def isBreakOrEnd (c : Char) : Bool := c = '\x00' || isBreak c

def isBlankOrEnd (c : Char) : Bool := c = ' ' || c = '\t' || isBreakOrEnd c

def isWordChar (c : Char) : Bool :=
  ('0' ≤ c && c ≤ '9') || ('A' ≤ c && c ≤ 'Z') || ('a' ≤ c && c ≤ 'z') || c = '-' || c = '_'

def isHexChar (c : Char) : Bool :=
  ('0' ≤ c && c ≤ '9') || ('A' ≤ c && c ≤ 'F') || ('a' ≤ c && c ≤ 'f')

def hexValue (c : Char) : Nat :=
  if c ≤ '9' then c.toNat - '0'.toNat
  else if c ≤ 'F' then c.toNat - 'A'.toNat + 10
  else c.toNat - 'a'.toNat + 10

def pieceSize : Nat := 4096

/-- For each number `k` of blocks of a text's UTF-8 bytes, from none to all of them, how
many characters the first `k` blocks give once their line ends are made uniform: those
held whole, less one for each CR LF pair among them and less a final carriage return,
which waits for what follows it; for all of them, the whole text. -/
def decodableCounts (text : List Char) : Array Nat :=
  let (_, _, _, _, counts) := text.foldl
    (fun ((bytes, count, pairs, previous, counts) : Nat × Nat × Nat × Char × Array Nat) c =>
      let last := bytes + c.utf8Size - 1
      let ready := count - pairs - (if previous == '\r' then 1 else 0)
      let counts := (List.range (last / Utf8.blockSize + 1 - counts.size)).foldl
        (fun (acc : Array Nat) _ => acc.push ready) counts
      let pairs := if previous == '\r' && c == '\n' then pairs + 1 else pairs
      (bytes + c.utf8Size, count + 1, pairs, c, counts)) (0, 0, 0, ' ', #[0])
  counts.push (universalNewlines text).length

/-- A stream being read: its characters (ending with a NUL), the position of the next
one, and its line and column; how many characters the text layer has handed over and
from how many blocks of bytes, how many of them are in the buffer, whether a read has
found the end of the text, and whether the end is in the buffer. -/
structure Stream where
  chars : Array Char
  pos : Nat
  line : Nat
  column : Nat
  decodable : Array Nat
  blocks : Nat
  delivered : Nat
  loaded : Nat
  exhausted : Bool
  ended : Bool
  deriving Inhabited

namespace Stream

def size (s : Stream) : Nat := s.chars.size - 1

def bufferEnd (s : Stream) : Nat := s.loaded + (if s.ended then 1 else 0)

/-- The first number of blocks, from `k` on, whose characters reach `want`, or all of
them. -/
def blocksFor (decodable : Array Nat) (want : Nat) : Nat → Nat → Nat
  | 0, k => k
  | fuel + 1, k =>
    if want ≤ decodable.getD k 0 || decodable.size ≤ k + 1 then k
    else blocksFor decodable want fuel (k + 1)

/-- One read of the text layer, of up to `pieceSize` characters: how many it hands over,
whether it had to decode more blocks (or find the end) for them, and the stream after. -/
def readPiece (s : Stream) : Nat × Bool × Stream :=
  let ready := s.decodable.getD s.blocks s.size - s.delivered
  if pieceSize ≤ ready then (pieceSize, false, { s with delivered := s.delivered + pieceSize })
  else
    let last := s.decodable.size - 1
    let blocks := blocksFor s.decodable (s.delivered + pieceSize) last (min (s.blocks + 1) last)
    let count := min pieceSize (s.decodable.getD blocks s.size - s.delivered)
    (count, true, { s with blocks, delivered := s.delivered + count, exhausted := count == 0 })

def firstPieces (s : Stream) : Nat → Stream
  | 0 => s
  | fuel + 1 =>
    if s.exhausted || 2 ≤ s.delivered then s
    else firstPieces (s.readPiece).2.2 fuel

/-- The first character no stream may hold among positions `start` to `stop`, with its
position. -/
def firstDisallowedIn (s : Stream) (start stop : Nat) : Option (Nat × Nat) :=
  ((List.range (stop - start)).find? fun i => !allowed (s.chars.getD (start + i) ' ')).map
    fun i => ((s.chars.getD (start + i) ' ').toNat, start + i)

/-- A stream at the start of a file's text, read in text mode (see `universalNewlines`),
with its buffer filled as reading begins: pieces until two characters have come, and one
piece more unless the text has ended; the buffer then holds all that came, and the end if
a read found it. A character no stream may hold among them is refused. -/
def start (text : String) : Except Refusal Stream := do
  let cs := text.toList
  let s : Stream :=
    ⟨(universalNewlines cs ++ ['\x00']).toArray, 0, 0, 0, decodableCounts cs, 0, 0, 0, false, false⟩
  let s := s.firstPieces (cs.length + 2)
  let s := if s.exhausted then s else (s.readPiece).2.2
  if let some (code, position) := s.firstDisallowedIn 0 s.delivered then
    throw (.badCharacter code position)
  return { s with loaded := s.delivered, ended := s.exhausted }

def peek (s : Stream) (k : Nat) : Char := s.chars[s.pos + k]?.getD '\x00'

def ch (s : Stream) : Char := s.peek 0

def ahead (s : Stream) (n : Nat) : List Char := (s.chars.extract s.pos (s.pos + n)).toList

def lookingAt (s : Stream) (t : String) : Bool := s.ahead t.length == t.toList

def mark (s : Stream) : Mark := ⟨s.line, s.column⟩

def step (s : Stream) : Stream :=
  let c := s.ch
  let pos := s.pos + 1
  let next := s.chars[pos]?.getD '\x00'
  if c = '\n' || c = '\x85' || c = '\u2028' || c = '\u2029' || (c = '\r' && next != '\n') then
    { s with pos, line := s.line + 1, column := 0 }
  else if c = '\uFEFF' then { s with pos }
  else { s with pos, column := s.column + 1 }

def forward (s : Stream) : Nat → Stream
  | 0 => s
  | n + 1 => (s.step).forward n

end Stream

/-- A state that keeps the room (see `RestConfig.Depth`) of the step that is running. -/
class HasRoom (σ : Type) where
  room : σ → Nat
  withRoom : σ → Nat → σ

namespace HasRoom

variable {σ : Type} [HasRoom σ]

def need (k : Nat) (site : Site) : StateT σ (Except Refusal) Unit := do
  if room (← get) < k then throw (.tooDeep site)

/-- Runs a step as a call: entering it takes one unit, and it runs with one unit less. -/
def call {α : Type} (step : StateT σ (Except Refusal) α) : StateT σ (Except Refusal) α := do
  let r := room (← get)
  if r = 0 then throw (.tooDeep .call)
  modify fun s => withRoom s (r - 1)
  let a ← step
  modify fun s => withRoom s r
  return a

def callValue : StateT σ (Except Refusal) Unit := need 1 .valueCall

/-- Calls a value that builds an object by running a step: the call of the value, then the
step inside it. -/
def callInto : StateT σ (Except Refusal) Unit := do
  need 1 .valueCall
  need 2 .call

def showValue : StateT σ (Except Refusal) Unit := need 1 .representation

def textValue : StateT σ (Except Refusal) Unit := need 1 .display

def compareValues : StateT σ (Except Refusal) Unit := need 1 .comparison

end HasRoom

end RestConfig.Yaml
