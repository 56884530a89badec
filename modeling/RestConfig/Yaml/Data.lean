import RestConfig.Yaml.Node
import RestConfig.Value.Basic
import RestConfig.Number.Reading
import RestConfig.Text.Base64
import RestConfig.Text.Case

/-!
# Building values from YAML nodes

Each node is built by the rule of its tag: null, booleans, integers, floats, binary data,
timestamps and strings from scalars; sequences, mappings, sets, ordered maps and pair
lists from collections. A tag without a rule is refused. A node met twice gives the same
value, so lists, dictionaries and sets live in numbered cells and are referred to.

Collections are filled late: building one makes its empty cell at once and queues the
filling; the queue is worked off in rounds after the root is built, each round in the
order the cells were made. This fixes which of several faults is reported.

Keys of a mapping must be hashable (no lists, dictionaries or sets) and are compared as
numbers by value (`1`, `1.0` and `true` are one key), texts by content and date-times by
instant; a not-a-number is only ever equal to itself. A later equal key replaces the value
of the earlier one and keeps its place.

Before a mapping is built, its merge keys (`<<`) are replaced by the entries of the
mapping or mappings they name (the last of a list first), which come before the
mapping's own entries; a value key (`=`) becomes a string key.
-/

namespace RestConfig.Yaml

open RestConfig.Text

/-- A value built from a node: a scalar, a key and value of an ordered map, or a
reference to a cell that holds a list, a dictionary or a set. A float remembers the node
it came from, since two not-a-numbers are one key only when they are one value. -/
inductive Datum where
  | none
  | bool (b : Bool)
  | int (i : Int)
  | float (x : Binary64) (origin : Option Nat)
  | str (s : String)
  | bytes (data : List UInt8)
  | date (d : Date)
  | datetime (d : Date) (t : TimeOfDay)
  | pair (key value : Datum)
  | cell (index : Nat)
  deriving Inhabited

/-- What a cell holds. -/
inductive Cell where
  | list (items : List Datum)
  | dict (entries : List (Datum × Datum))
  | set (members : List Datum)
  deriving Inhabited

namespace Datum

def hashable : Datum → Bool
  | .cell _ => false
  | .pair k v => k.hashable && v.hashable
  | _ => true

def scalarValue : Datum → Value
  | .bool b => .bool b
  | .int i => .int i
  | .float x _ => .float x
  | .str s => .str s
  | .bytes d => .bytes d
  | .date d => .date d
  | .datetime d t => .datetime d t
  | _ => .none

def sameKey : Datum → Datum → Bool
  | .float x o, .float y p =>
    if x.isNaN || y.isNaN then x.isNaN && y.isNaN && o == p
    else Value.same (.float x) (.float y)
  | .pair a b, .pair c d => sameKey a c && sameKey b d
  | .pair _ _, _ | _, .pair _ _ => false
  | .cell i, .cell j => i == j
  | .cell _, _ | _, .cell _ => false
  | a, b => Value.same a.scalarValue b.scalarValue

end Datum

/-- Sets a key in a dictionary's entries: an equal key keeps its place and gets the new
value, a new key goes last. -/
def insertKey (entries : List (Datum × Datum)) (k v : Datum) : List (Datum × Datum) :=
  if entries.any (Datum.sameKey ·.1 k) then
    entries.map fun (k', v') => if Datum.sameKey k' k then (k', v) else (k', v')
  else entries ++ [(k, v)]

/-- A queued filling of a cell from a node. -/
inductive Fill where
  | sequence (node cell : Nat)
  | mapping (node cell : Nat)
  | set (node cell : Nat)
  | pairs (node cell : Nat) (context : String)
  deriving Inhabited

/-- The state of building: the nodes (merging changes mappings), what each node built,
the cells, and the fillings queued for the next round. -/
structure Builder where
  nodes : Array Node
  built : Array (Option Datum)
  cells : Array Cell
  queue : List Fill
  deriving Inhabited

abbrev Build := StateT Builder (Except Refusal)

namespace Build

def node (n : Nat) : Build Node := return (← get).nodes[n]?.getD default

def setNode (n : Nat) (f : Node → Node) : Build Unit :=
  modify fun b => { b with nodes := b.nodes.modify n f }

def pairsOf (n : Nat) : Build (List (Nat × Nat)) := do
  match (← node n).body with
  | .mapping pairs => return pairs
  | _ => return []

def newCell (c : Cell) : Build Nat := do
  let b ← get
  set { b with cells := b.cells.push c }
  return b.cells.size

def setCell (i : Nat) (c : Cell) : Build Unit :=
  modify fun b => { b with cells := b.cells.set! i c }

def enqueue (f : Fill) : Build Unit := modify fun b => { b with queue := b.queue ++ [f] }

def failAt {α : Type} (problem : String) (m : Mark) : Build α :=
  throw (Problem.make none none problem m)

def refuse {α : Type} (u : Unbuildable) : Build α := throw (.unbuildable u)

end Build

open Build

/-! ## Scalars -/

def scalarText : Nat → Nat → Build String
  | 0, _ => refuse .tooDeep
  | fuel + 1, n => do
    let nd ← node n
    match nd.body with
    | .scalar s => return s
    | .mapping pairs =>
      let nodes := (← get).nodes
      match pairs.find? fun (k, _) => (nodes[k]?.map (·.tag)) == some (coreTag "value") with
      | some (_, v) => scalarText fuel v
      | none => failAt "expected a scalar node, but found mapping" nd.start
    | .sequence _ => failAt "expected a scalar node, but found sequence" nd.start

def booleanWords : List (String × Bool) :=
  [("yes", true), ("no", false), ("true", true), ("false", false), ("on", true), ("off", false)]

def booleanOf (text : String) : Except Refusal Bool :=
  let word := lower text
  match booleanWords.lookup word with
  | some b => .ok b
  | none => .error (.unbuildable (.notBoolean word))

def integerOfBase (base : Nat) (s : String) : Except Refusal Int :=
  match Reading.readIntegerOfBase base s with
  | .value i => .ok i
  | .malformed => .error (.unbuildable (.badLiteral (Reading.invalidIntegerMessage base s)))
  | .tooLong n => .error (.unbuildable (.badLiteral (Reading.tooManyDigitsMessage n)))

def placesValue (places : List Int) : Int := places.foldl (fun acc d => acc * 60 + d) 0

def splitSign (cs : List Char) : Bool × List Char :=
  match cs with
  | '-' :: rest => (true, rest)
  | '+' :: rest => (false, rest)
  | _ => (false, cs)

/-- An integer from its text: underscores are dropped; `0b` binary, `0x` hexadecimal, a
leading `0` octal, `:` between base-60 places, decimal otherwise. -/
def integerOf (text : String) : Except Refusal Int := do
  let value := text.replace "_" ""
  if value.isEmpty then throw (.unbuildable .emptyNumber)
  let (negative, cs) := splitSign value.toList
  let body := String.ofList cs
  let magnitude ←
    if body == "0" then pure 0
    else if body.startsWith "0b" then integerOfBase 2 (String.ofList (cs.drop 2))
    else if body.startsWith "0x" then integerOfBase 16 (String.ofList (cs.drop 2))
    else match cs with
      | [] => throw (.unbuildable .emptyNumber)
      | '0' :: _ => integerOfBase 8 body
      | _ =>
        if cs.contains ':' then
          let places ← (body.splitOn ":").mapM (integerOfBase 10)
          pure (placesValue places)
        else integerOfBase 10 body
  return if negative then -magnitude else magnitude

def floatText (s : String) : Except Refusal Binary64 :=
  match Reading.readFloat? s with
  | some x => .ok x
  | none => .error (.unbuildable (.badLiteral ("could not convert string to float: " ++ quote s)))

/-- The sum of base-60 places, the least significant first, each times its place value. -/
def placesFloat : List Binary64 → Nat → Binary64 → Except Refusal Binary64
  | [], _, acc => .ok acc
  | d :: rest, place, acc => do
    let scale := Binary64.ofInt place
    if scale.isInfinite then throw (.unbuildable .placeTooLarge)
    placesFloat rest (place * 60) (Binary64.add acc (Binary64.mul d scale))

/-- A float from its text: underscores dropped, any case; `.inf`, `.nan`, base-60 places
separated by `:`, or a decimal numeral. The not-a-number `.nan` is one shared value. -/
def floatOf (origin : Nat) (text : String) : Except Refusal Datum := do
  let value := lower (text.replace "_" "")
  if value.isEmpty then throw (.unbuildable .emptyNumber)
  let (negative, cs) := splitSign value.toList
  let sign := Binary64.ofInt (if negative then -1 else 1)
  let body := String.ofList cs
  if body == ".inf" then return .float (Binary64.infinity negative) (some origin)
  if body == ".nan" then return .float Binary64.nan none
  if cs.contains ':' then
    let places ← (body.splitOn ":").mapM floatText
    let sum ← placesFloat places.reverse 1 (Binary64.zero false)
    return .float (Binary64.mul sign sum) (some origin)
  let x ← floatText body
  return .float (Binary64.mul sign x) (some origin)

def bytesOf (text : String) (m : Mark) : Except Refusal (List UInt8) := do
  if let some problem := Base64.notAscii? text then
    throw (Problem.make none none ("failed to convert base64 data into ascii: " ++ problem) m)
  match Base64.decode text with
  | .ok data => return data
  | .error e => throw (Problem.make none none ("failed to decode base64 data: " ++ e.message) m)

/-! ## Timestamps -/

/-- The zone of a timestamp: UTC, or a signed offset in hours and optional minutes. -/
inductive Zone where
  | utc
  | offset (negative : Bool) (hours : Nat) (minutes : Option Nat)

/-- The fields of a timestamp's text. -/
structure Stamp where
  year : Nat
  month : Nat
  day : Nat
  clock : Option (Nat × Nat × Nat × List Char × Option Zone)

def digitsValue (cs : List Char) : Nat := cs.foldl (fun n c => n * 10 + (c.toNat - '0'.toNat)) 0

def takeDigits (n : Nat) (cs : List Char) : Option (Nat × List Char) :=
  if (cs.take n).length == n && (cs.take n).all Implicit.digit then
    some (digitsValue (cs.take n), cs.drop n)
  else none

def takeOneOrTwo (cs : List Char) : Option (Nat × List Char) :=
  match cs with
  | a :: b :: rest =>
    if Implicit.digit a then
      if Implicit.digit b then some (digitsValue [a, b], rest) else some (digitsValue [a], b :: rest)
    else none
  | [a] => if Implicit.digit a then some (digitsValue [a], []) else none
  | [] => none

def zoneOf (cs : List Char) : Option (Option Zone) :=
  if cs.isEmpty then some none
  else match cs.dropWhile (fun c => c == ' ' || c == '\t') with
    | ['Z'] => some (some .utc)
    | s :: rest =>
      if s == '+' || s == '-' then
        match takeOneOrTwo rest with
        | some (h, []) => some (some (.offset (s == '-') h none))
        | some (h, ':' :: m) =>
          match takeDigits 2 m with
          | some (mins, []) => some (some (.offset (s == '-') h (some mins)))
          | _ => none
        | _ => none
      else none
    | [] => none

def clockOf (cs : List Char) : Option (Nat × Nat × Nat × List Char × Option Zone) := do
  let rest ← match cs with
    | sep :: r =>
      if sep == 'T' || sep == 't' then some r
      else if sep == ' ' || sep == '\t' then some (r.dropWhile fun c => c == ' ' || c == '\t')
      else none
    | [] => none
  let (hour, rest) ← takeOneOrTwo rest
  let rest ← match rest with
    | ':' :: r => some r
    | _ => none
  let (minute, rest) ← takeDigits 2 rest
  let rest ← match rest with
    | ':' :: r => some r
    | _ => none
  let (second, rest) ← takeDigits 2 rest
  let (fraction, rest) := match rest with
    | '.' :: r => (r.takeWhile Implicit.digit, r.dropWhile Implicit.digit)
    | r => ([], r)
  let zone ← zoneOf rest
  return (hour, minute, second, fraction, zone)

def stampOfChars (cs : List Char) : Option Stamp := do
  let (year, rest) ← takeDigits 4 cs
  let rest ← match rest with
    | '-' :: r => some r
    | _ => none
  let (month, rest) ← takeOneOrTwo rest
  let rest ← match rest with
    | '-' :: r => some r
    | _ => none
  let (day, rest) ← takeOneOrTwo rest
  if rest.isEmpty then return ⟨year, month, day, none⟩
  let clock ← clockOf rest
  return ⟨year, month, day, some clock⟩

def stampOf? (text : String) : Option Stamp :=
  let cs := text.toList
  match stampOfChars cs with
  | some s => some s
  | none => if cs.getLast? == some '\n' then stampOfChars cs.dropLast else none

def daysInMonth (year month : Nat) : Nat :=
  if month = 2 then
    if year % 4 = 0 && (year % 100 != 0 || year % 400 = 0) then 29 else 28
  else if month = 4 || month = 6 || month = 9 || month = 11 then 30
  else 31

def checkDate (year month day : Nat) : Except Refusal Date := do
  if year < 1 || year > 9999 then
    throw (.unbuildable (.badLiteral ("year " ++ toString year ++ " is out of range")))
  if month < 1 || month > 12 then throw (.unbuildable (.badLiteral "month must be in 1..12"))
  if day < 1 || day > daysInMonth year month then
    throw (.unbuildable (.badLiteral "day is out of range for month"))
  return ⟨year, month, day⟩

def deltaText (seconds : Int) : String :=
  let days := seconds / 86400
  let rest := seconds - days * 86400
  let parts := (if days != 0 then ["days=" ++ toString days] else []) ++
    (if rest != 0 then ["seconds=" ++ toString rest] else [])
  "datetime.timedelta(" ++ (if parts.isEmpty then "0" else ", ".intercalate parts) ++ ")"

def zoneMinutes : Zone → Except Refusal Int
  | .utc => .ok 0
  | .offset negative hours minutes =>
    let total : Int := hours * 60 + minutes.getD 0
    let signed := if negative then -total else total
    if total ≥ 1440 then
      .error (.unbuildable (.badLiteral
        ("offset must be a timedelta strictly between -timedelta(hours=24) and " ++
          "timedelta(hours=24), not " ++ deltaText (signed * 60) ++ ".")))
    else .ok signed

def timestampOf (text : String) : Except Refusal Datum := do
  let some s := stampOf? text | throw (.unbuildable .notTimestamp)
  match s.clock with
  | none => return .date (← checkDate s.year s.month s.day)
  | some (hour, minute, second, fraction, zone) =>
    let micro := digitsValue ((fraction.take 6) ++ List.replicate (6 - (fraction.take 6).length) '0')
    let offset ← match zone with
      | some z => some <$> zoneMinutes z
      | none => pure none
    let date ← checkDate s.year s.month s.day
    if hour > 23 then throw (.unbuildable (.badLiteral "hour must be in 0..23"))
    if minute > 59 then throw (.unbuildable (.badLiteral "minute must be in 0..59"))
    if second > 59 then throw (.unbuildable (.badLiteral "second must be in 0..59"))
    return .datetime date ⟨hour, minute, second, micro, offset⟩

/-! ## Merging -/

mutual
/-- Replaces the merge keys of a mapping node by the entries they name, and turns its
value keys into string keys. -/
def flatten : Nat → Nat → Build Unit
  | 0, _ => refuse .tooDeep
  | fuel + 1, n => do
    let merged ← mergeFrom fuel n 0 []
    if !merged.isEmpty then
      let pairs ← pairsOf n
      setNode n fun nd => { nd with body := .mapping (merged ++ pairs) }

/-- Walks the entries of a mapping node from an index on, removing its merge keys and
collecting the entries they name. -/
def mergeFrom : Nat → Nat → Nat → List (Nat × Nat) → Build (List (Nat × Nat))
  | 0, _, _, _ => refuse .tooDeep
  | fuel + 1, n, index, merged => do
    let pairs ← pairsOf n
    match pairs[index]? with
    | none => return merged
    | some (k, v) =>
      let keyNode ← node k
      if keyNode.tag == coreTag "merge" then
        setNode n fun nd => { nd with body := .mapping (pairs.eraseIdx index) }
        let valueNode ← node v
        let start := (← node n).start
        match valueNode.body with
        | .mapping _ =>
          flatten fuel v
          mergeFrom fuel n index (merged ++ (← pairsOf v))
        | .sequence items =>
          let groups ← items.mapM fun sub => do
            let subNode ← node sub
            match subNode.body with
            | .mapping _ =>
              flatten fuel sub
              pairsOf sub
            | _ =>
              throw (Problem.make (some "while constructing a mapping") (some start)
                ("expected a mapping for merging, but found " ++ subNode.kindName) subNode.start)
          mergeFrom fuel n index (merged ++ groups.reverse.flatten)
        | _ =>
          throw (Problem.make (some "while constructing a mapping") (some start)
            ("expected a mapping or list of mappings for merging, but found " ++
              valueNode.kindName) valueNode.start)
      else
        if keyNode.tag == coreTag "value" then
          setNode k fun nd => { nd with tag := strTag }
        mergeFrom fuel n (index + 1) merged
end

/-! ## Nodes -/

def stepBudget : Build Nat := do
  let size := (← get).nodes.size + 8
  return size * size * 64

/-- Builds the value of a node, or answers the one it built before. Collections get an
empty cell now and are filled in a later round. -/
def construct (n : Nat) : Build Datum := do
  if let some (some d) := (← get).built[n]? then return d
  let nd ← node n
  let text : Build String := do scalarText (← stepBudget) n
  let collection (c : Cell) (f : Nat → Fill) : Build Datum := do
    let i ← newCell c
    enqueue (f i)
    return .cell i
  let tag := nd.tag
  let d ←
    if tag == coreTag "null" then do
      discard text
      pure Datum.none
    else if tag == coreTag "bool" then do pure (Datum.bool (← booleanOf (← text)))
    else if tag == coreTag "int" then do pure (Datum.int (← integerOf (← text)))
    else if tag == coreTag "float" then do floatOf n (← text)
    else if tag == coreTag "binary" then do pure (Datum.bytes (← bytesOf (← text) nd.start))
    else if tag == coreTag "timestamp" then do
      let t ← text
      match nd.body with
      | .scalar _ => timestampOf t
      | _ => refuse .timestampOfMapping
    else if tag == coreTag "str" then do pure (Datum.str (← text))
    else if tag == coreTag "omap" then
      collection (.list []) fun i => .pairs n i "while constructing an ordered map"
    else if tag == coreTag "pairs" then
      collection (.list []) fun i => .pairs n i "while constructing pairs"
    else if tag == coreTag "set" then collection (.set []) (.set n)
    else if tag == seqTag then collection (.list []) (.sequence n)
    else if tag == mapTag then collection (.dict []) (.mapping n)
    else failAt ("could not determine a constructor for the tag " ++ quote tag) nd.start
  modify fun b => { b with built := b.built.set! n (some d) }
  return d

def constructMapping (n : Nat) : Build (List (Datum × Datum)) := do
  if (← node n).body matches .mapping _ then flatten (← stepBudget) n
  let nd ← node n
  match nd.body with
  | .mapping pairs =>
    pairs.foldlM (fun acc (k, v) => do
      let key ← construct k
      if !key.hashable then
        throw (Problem.make (some "while constructing a mapping") (some nd.start)
          "found unhashable key" (← node k).start)
      let value ← construct v
      return insertKey acc key value) []
  | _ => failAt ("expected a mapping node, but found " ++ nd.kindName) nd.start

def constructPairs (n : Nat) (context : String) : Build (List Datum) := do
  let nd ← node n
  match nd.body with
  | .sequence items =>
    items.mapM fun sub => do
      let subNode ← node sub
      match subNode.body with
      | .mapping [(k, v)] =>
        let key ← construct k
        let value ← construct v
        return Datum.pair key value
      | .mapping pairs =>
        throw (Problem.make (some context) (some nd.start)
          ("expected a single mapping item, but found " ++ toString pairs.length ++ " items")
          subNode.start)
      | _ =>
        throw (Problem.make (some context) (some nd.start)
          ("expected a mapping of length 1, but found " ++ subNode.kindName) subNode.start)
  | _ =>
    throw (Problem.make (some context) (some nd.start)
      ("expected a sequence, but found " ++ nd.kindName) nd.start)

def runFill : Fill → Build Unit
  | .sequence n i => do
    let nd ← node n
    match nd.body with
    | .sequence items => setCell i (.list (← items.mapM construct))
    | _ => failAt ("expected a sequence node, but found " ++ nd.kindName) nd.start
  | .mapping n i => do setCell i (.dict (← constructMapping n))
  | .set n i => do setCell i (.set ((← constructMapping n).map (·.1)))
  | .pairs n i context => do setCell i (.list (← constructPairs n context))

def rounds : Nat → Build Unit
  | 0 => refuse .tooDeep
  | fuel + 1 => do
    let queue := (← get).queue
    if queue.isEmpty then return
    modify fun b => { b with queue := [] }
    queue.forM runFill
    rounds fuel

def Datum.keyValue : Datum → Value
  | .pair k v => .tuple [k.keyValue, v.keyValue]
  | d => d.scalarValue

/-- A document's data: the value of its root, and the cells its lists, dictionaries and
sets live in. A cell may hold itself, directly or through others. -/
structure Data where
  root : Datum
  cells : Array Cell
  deriving Inhabited

def Data.typeName (doc : Data) : Datum → String
  | .cell i =>
    match doc.cells[i]? with
    | some (.list _) => "list"
    | some (.dict _) => "dict"
    | some (.set _) => "set"
    | Option.none => "NoneType"
  | .pair _ _ => "tuple"
  | d => d.scalarValue.typeName

def Graph.data (g : Graph) : Except Refusal Data := do
  let go : Build Datum := do
    let d ← construct g.root
    rounds (g.nodes.size + 2)
    return d
  let (d, b) ← StateT.run go ⟨g.nodes, Array.replicate g.nodes.size none, #[], []⟩
  return ⟨d, b.cells⟩

end RestConfig.Yaml
