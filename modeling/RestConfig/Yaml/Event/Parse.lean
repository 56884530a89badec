import RestConfig.Yaml.Event
import RestConfig.Yaml.Token.Scan

/-!
# Reading events from tokens

Events are read on demand, one at a time, by a machine whose state says what may come
next (a document, a node, the next entry of a block sequence, the value of a flow
mapping's key, ...) and which keeps a stack of the states to return to when a node is
done, with the marks where the open collections started.

A document is implicit when it does not start with `---`; only the first document of a
stream may be implicit. Directives (`%YAML 1.x`, `%TAG !h! prefix`) stand before an
explicit document; the tag handles `!` and `!!` are always known, the latter as
`tag:yaml.org,2002:`. A node is an alias, or an optional anchor and tag followed by a
scalar, a flow or block collection, or nothing (an empty scalar, allowed when an anchor
or tag is present). In a block mapping, the value of a key may be a sequence written
at the key's own indentation.

## Room

Reading events takes room (see `RestConfig.Depth`). Each step of the machine is a call,
and so is each look at the tokens; some steps hand over to another step, which is one
call deeper. Building an event or an error calls a value that runs a step, and a message
that shows a token writes its representation.
-/

namespace RestConfig.Yaml

open RestConfig.Text

/-- What the event reader expects next. -/
inductive Expect where
  | streamStart
  | implicitDocumentStart
  | documentStart
  | documentEnd
  | documentContent
  | blockNode
  | blockSequenceFirstEntry
  | blockSequenceEntry
  | indentlessSequenceEntry
  | blockMappingFirstKey
  | blockMappingKey
  | blockMappingValue
  | flowSequenceFirstEntry
  | flowSequenceEntry
  | flowSequenceEntryMappingKey
  | flowSequenceEntryMappingValue
  | flowSequenceEntryMappingEnd
  | flowMappingFirstKey
  | flowMappingKey
  | flowMappingValue
  | flowMappingEmptyValue
  | finished
  deriving Inhabited, DecidableEq

def defaultHandles : List (String × String) := [("!", "!"), ("!!", "tag:yaml.org,2002:")]

/-- The state of reading events: the tokens, what is expected now, the states to return
to, the marks where open collections started, the tag handles of the document, the event
read ahead, if any, and the room of the running step. -/
structure EventReader where
  tokens : Tokenizer
  expect : Expect
  resume : List Expect
  marks : List Mark
  handles : List (String × String)
  ahead : Option Event
  room : Nat
  deriving Inhabited

instance : HasRoom EventReader := ⟨EventReader.room, fun r room => { r with room }⟩

abbrev Read := StateT EventReader (Except Refusal)

namespace Read

open HasRoom

def peekToken : Read Token := do
  let r ← get
  let (tok, tokens) ← r.tokens.peek? r.room
  set { r with tokens }
  return tok.getD default

def takeToken : Read Token := do
  let r ← get
  let (tok, tokens) ← r.tokens.next? r.room
  set { r with tokens }
  return tok.getD default

def nextIs (p : TokenKind → Bool) : Read Bool := return p (← peekToken).kind

def shownName (k : TokenKind) : Read String := do
  showValue
  return quote k.name

def fail {α : Type} (context : Option String) (contextMark : Option Mark) (problem : String)
    (place : Mark) : Read α := do
  callInto
  throw (Problem.make context contextMark problem place)

def build (e : Event) : Read Event := do
  callInto
  return e

def expecting (e : Expect) : Read Unit := modify fun r => { r with expect := e }

def later (e : Expect) : Read Unit := modify fun r => { r with resume := e :: r.resume }

def back : Read Unit :=
  modify fun r => { r with expect := r.resume.headD .finished, resume := r.resume.tail }

def open_ (m : Mark) : Read Unit := modify fun r => { r with marks := m :: r.marks }

def close : Read Unit := modify fun r => { r with marks := r.marks.tail }

def innermost : Read Mark := return (← get).marks.headD default

def emptyScalar (m : Mark) : Read Event := call (build ⟨.scalar none none true false "", m, m⟩)

end Read

/-! ## Token kinds -/

namespace TokenKind

def isDirective : TokenKind → Bool
  | .directive _ _ => true
  | _ => false

def isDocumentBoundary : TokenKind → Bool
  | .directive _ _ | .documentStart | .documentEnd | .streamEnd => true
  | _ => false

/-- Whether a token makes the first document explicit: a directive, a document start,
or the end of the stream. -/
def startsExplicitly : TokenKind → Bool
  | .directive _ _ | .documentStart | .streamEnd => true
  | _ => false

def isBlockEntry : TokenKind → Bool
  | .blockEntry => true
  | _ => false

def isBlockEnd : TokenKind → Bool
  | .blockEnd => true
  | _ => false

def isKey : TokenKind → Bool
  | .key => true
  | _ => false

def isValue : TokenKind → Bool
  | .value => true
  | _ => false

def isFlowEntry : TokenKind → Bool
  | .flowEntry => true
  | _ => false

def isFlowSequenceEnd : TokenKind → Bool
  | .flowSequenceEnd => true
  | _ => false

def isFlowMappingEnd : TokenKind → Bool
  | .flowMappingEnd => true
  | _ => false

end TokenKind


namespace Read

open HasRoom

/-! ## Nodes -/

/-- The optional anchor and tag before a node's content: the anchor, the tag as written
(handle and suffix), the marks where they start and stop, and the mark of the tag. -/
def properties : Read (Option String × Option (Option String × String) × Option Mark ×
    Option Mark × Option Mark) := do
  let tok ← peekToken
  match tok.kind with
  | .anchor name =>
    discard takeToken
    let next ← peekToken
    match next.kind with
    | .tag h s =>
      discard takeToken
      return (some name, some (h, s), some tok.start, some next.stop, some next.start)
    | _ => return (some name, none, some tok.start, some tok.stop, none)
  | .tag h s =>
    discard takeToken
    let next ← peekToken
    match next.kind with
    | .anchor name =>
      discard takeToken
      return (some name, some (h, s), some tok.start, some next.stop, some tok.start)
    | _ => return (none, some (h, s), some tok.start, some tok.stop, some tok.start)
  | _ => return (none, none, none, none, none)

/-- A node: an alias, or properties and content. In block context the content may be a
block collection; `indentless` allows a block sequence at the parent's indentation. -/
def node (block indentless : Bool) : Read Event := call do
  let tok ← peekToken
  if let .alias name := tok.kind then
    let tok ← takeToken
    let e ← build ⟨.alias name, tok.start, tok.stop⟩
    back
    return e
  let (anchor, written, start?, stop?, tagMark) ← properties
  let tag ← match written with
    | some (some handle, suffix) =>
      match (← get).handles.lookup handle with
      | some expansion => pure (some (expansion ++ suffix))
      | none =>
        showValue
        fail (some "while parsing a node") start? ("found undefined tag handle " ++ quote handle)
          (tagMark.getD default)
    | some (none, suffix) => pure (some suffix)
    | none => pure none
  let next ← peekToken
  let start := start?.getD next.start
  let stop := stop?.getD next.start
  let implicit := tag.isNone || tag == some "!"
  match next.kind with
  | .blockEntry =>
    if indentless then
      let e ← build ⟨.sequenceStart anchor tag implicit, start, next.stop⟩
      expecting .indentlessSequenceEntry
      return e
    else nonScalar anchor tag implicit start stop next
  | .scalar value plain _ =>
    discard takeToken
    let (plainImplicit, quotedImplicit) :=
      if (plain && tag.isNone) || tag == some "!" then (true, false)
      else if tag.isNone then (false, true)
      else (false, false)
    let e ← build ⟨.scalar anchor tag plainImplicit quotedImplicit value, start, next.stop⟩
    back
    return e
  | _ => nonScalar anchor tag implicit start stop next
where
  nonScalar (anchor tag : Option String) (implicit : Bool) (start stop : Mark) (next : Token) :
      Read Event := do
    match next.kind with
    | .flowSequenceStart =>
      let e ← build ⟨.sequenceStart anchor tag implicit, start, next.stop⟩
      expecting .flowSequenceFirstEntry
      return e
    | .flowMappingStart =>
      let e ← build ⟨.mappingStart anchor tag implicit, start, next.stop⟩
      expecting .flowMappingFirstKey
      return e
    | .blockSequenceStart =>
      if block then
        let e ← build ⟨.sequenceStart anchor tag implicit, start, next.start⟩
        expecting .blockSequenceFirstEntry
        return e
      else empty anchor tag implicit start stop next
    | .blockMappingStart =>
      if block then
        let e ← build ⟨.mappingStart anchor tag implicit, start, next.start⟩
        expecting .blockMappingFirstKey
        return e
      else empty anchor tag implicit start stop next
    | _ => empty anchor tag implicit start stop next
  empty (anchor tag : Option String) (implicit : Bool) (start stop : Mark) (next : Token) :
      Read Event := do
    if anchor.isSome || tag.isSome then
      let e ← build ⟨.scalar anchor tag implicit false "", start, stop⟩
      back
      return e
    else
      let name ← shownName next.kind
      fail (some ("while parsing a " ++ (if block then "block" else "flow") ++ " node"))
        (some start) ("expected the node content, but found " ++ name) next.start

def blockNode : Read Event := call (node true false)

def blockNodeOrIndentlessSequence : Read Event := call (node true true)

def flowNode : Read Event := call (node false false)

/-! ## Documents -/

def directiveList : Nat → Option (Nat × Nat) → List (String × String) →
    Read (List (String × String))
  | 0, _, handles => pure handles
  | fuel + 1, version, handles => do
    let tok ← peekToken
    match tok.kind with
    | .directive name value =>
      discard takeToken
      match name, value with
      | "YAML", .version major minor =>
        if version.isSome then fail none none "found duplicate YAML directive" tok.start
        if major != 1 then
          fail none none "found incompatible YAML document (version 1.* is required)" tok.start
        directiveList fuel (some (major, minor)) handles
      | "TAG", .handle handle expansion =>
        if (handles.lookup handle).isSome then
          showValue
          fail none none ("duplicate tag handle " ++ quote handle) tok.start
        directiveList fuel version (handles ++ [(handle, expansion)])
      | _, _ => directiveList fuel version handles
    | _ => pure handles

/-- Reads the directives before a document and sets its tag handles: those the
directives give, and the ones every document knows. -/
def processDirectives : Read Unit := call do
  let handles ← directiveList ((← get).tokens.stream.chars.size + 1) none []
  if !handles.isEmpty then callValue
  let handles := handles ++ defaultHandles.filter fun (h, _) => (handles.lookup h).isNone
  modify fun r => { r with handles }

def skipDocumentEnds : Nat → Read Unit
  | 0 => pure ()
  | fuel + 1 => do
    if ← nextIs (· matches .documentEnd) then
      discard takeToken
      skipDocumentEnds fuel

def documentStart : Read Event := call do
  skipDocumentEnds ((← get).tokens.stream.chars.size + 1)
  let tok ← peekToken
  if tok.kind matches .streamEnd then
    let tok ← takeToken
    let e ← build ⟨.streamEnd, tok.start, tok.stop⟩
    expecting .finished
    return e
  let start := tok.start
  processDirectives
  let tok ← peekToken
  if !(tok.kind matches .documentStart) then
    let name ← shownName tok.kind
    fail none none ("expected '<document start>', but found " ++ name) tok.start
  let tok ← takeToken
  let e ← build ⟨.documentStart, start, tok.stop⟩
  later .documentEnd
  expecting .documentContent
  return e

def implicitDocumentStart : Read Event := call do
  let tok ← peekToken
  if tok.kind.startsExplicitly then documentStart
  else
    modify fun r => { r with handles := defaultHandles }
    let e ← build ⟨.documentStart, tok.start, tok.start⟩
    later .documentEnd
    expecting .blockNode
    return e

def documentEnd : Read Event := call do
  let tok ← peekToken
  let stop ← if tok.kind matches .documentEnd then do
      let t ← takeToken
      pure t.stop
    else pure tok.start
  let e ← build ⟨.documentEnd, tok.start, stop⟩
  expecting .documentStart
  return e

/-- The content of an explicit document: a node, or an empty scalar when the document
ends at once. -/
def documentContent : Read Event := call do
  let tok ← peekToken
  if tok.kind.isDocumentBoundary then
    let e ← emptyScalar tok.start
    back
    return e
  else blockNode

def streamStart : Read Event := call do
  let tok ← takeToken
  let e ← build ⟨.streamStart, tok.start, tok.stop⟩
  expecting .implicitDocumentStart
  return e

/-! ## Block collections -/

def blockSequenceEntry : Read Event := call do
  let tok ← peekToken
  if tok.kind.isBlockEntry then
    let tok ← takeToken
    let next ← peekToken
    if next.kind.isBlockEntry || next.kind.isBlockEnd then
      expecting .blockSequenceEntry
      return ← emptyScalar tok.stop
    else
      later .blockSequenceEntry
      return ← blockNode
  if !tok.kind.isBlockEnd then
    let name ← shownName tok.kind
    fail (some "while parsing a block collection") (some (← innermost))
      ("expected <block end>, but found " ++ name) tok.start
  let tok ← takeToken
  let e ← build ⟨.sequenceEnd, tok.start, tok.stop⟩
  back
  close
  return e

def indentlessSequenceEntry : Read Event := call do
  let tok ← peekToken
  if tok.kind.isBlockEntry then
    let tok ← takeToken
    let next ← peekToken
    if next.kind.isBlockEntry || next.kind.isKey || next.kind.isValue || next.kind.isBlockEnd then
      expecting .indentlessSequenceEntry
      emptyScalar tok.stop
    else
      later .indentlessSequenceEntry
      blockNode
  else
    let e ← build ⟨.sequenceEnd, tok.start, tok.start⟩
    back
    return e

def blockMappingKey : Read Event := call do
  let tok ← peekToken
  if tok.kind.isKey then
    let tok ← takeToken
    let next ← peekToken
    if next.kind.isKey || next.kind.isValue || next.kind.isBlockEnd then
      expecting .blockMappingValue
      return ← emptyScalar tok.stop
    else
      later .blockMappingValue
      return ← blockNodeOrIndentlessSequence
  if !tok.kind.isBlockEnd then
    let name ← shownName tok.kind
    fail (some "while parsing a block mapping") (some (← innermost))
      ("expected <block end>, but found " ++ name) tok.start
  let tok ← takeToken
  let e ← build ⟨.mappingEnd, tok.start, tok.stop⟩
  back
  close
  return e

def blockMappingValue : Read Event := call do
  let tok ← peekToken
  if tok.kind.isValue then
    let tok ← takeToken
    let next ← peekToken
    if next.kind.isKey || next.kind.isValue || next.kind.isBlockEnd then
      expecting .blockMappingKey
      emptyScalar tok.stop
    else
      later .blockMappingKey
      blockNodeOrIndentlessSequence
  else
    expecting .blockMappingKey
    emptyScalar tok.start

def openCollection : Read Unit := do
  let tok ← takeToken
  open_ tok.start

def blockSequenceFirstEntry : Read Event := call do
  openCollection
  blockSequenceEntry

def blockMappingFirstKey : Read Event := call do
  openCollection
  blockMappingKey

/-! ## Flow collections -/

/-- An entry of a flow sequence, or its end; entries after the first follow a `,`. A
`?` starts a single-pair mapping. -/
def flowSequenceEntry (first : Bool) : Read Event := call do
  let tok ← peekToken
  if !tok.kind.isFlowSequenceEnd then
    if !first then
      if tok.kind.isFlowEntry then discard takeToken
      else
        let name ← shownName tok.kind
        fail (some "while parsing a flow sequence") (some (← innermost))
          ("expected ',' or ']', but got " ++ name) tok.start
    let tok ← peekToken
    if tok.kind.isKey then
      let e ← build ⟨.mappingStart none none true, tok.start, tok.stop⟩
      expecting .flowSequenceEntryMappingKey
      return e
    else if !tok.kind.isFlowSequenceEnd then
      later .flowSequenceEntry
      return ← flowNode
  let tok ← takeToken
  let e ← build ⟨.sequenceEnd, tok.start, tok.stop⟩
  back
  close
  return e

def flowSequenceEntryMappingKey : Read Event := call do
  let tok ← takeToken
  let next ← peekToken
  if next.kind.isValue || next.kind.isFlowEntry || next.kind.isFlowSequenceEnd then
    expecting .flowSequenceEntryMappingValue
    emptyScalar tok.stop
  else
    later .flowSequenceEntryMappingValue
    flowNode

def flowSequenceEntryMappingValue : Read Event := call do
  let tok ← peekToken
  if tok.kind.isValue then
    let tok ← takeToken
    let next ← peekToken
    if next.kind.isFlowEntry || next.kind.isFlowSequenceEnd then
      expecting .flowSequenceEntryMappingEnd
      emptyScalar tok.stop
    else
      later .flowSequenceEntryMappingEnd
      flowNode
  else
    expecting .flowSequenceEntryMappingEnd
    emptyScalar tok.start

def flowSequenceEntryMappingEnd : Read Event := call do
  expecting .flowSequenceEntry
  let tok ← peekToken
  build ⟨.mappingEnd, tok.start, tok.start⟩

def flowMappingKey (first : Bool) : Read Event := call do
  let tok ← peekToken
  if !tok.kind.isFlowMappingEnd then
    if !first then
      if tok.kind.isFlowEntry then discard takeToken
      else
        let name ← shownName tok.kind
        fail (some "while parsing a flow mapping") (some (← innermost))
          ("expected ',' or '\x7d', but got " ++ name) tok.start
    let tok ← peekToken
    if tok.kind.isKey then
      let tok ← takeToken
      let next ← peekToken
      if next.kind.isValue || next.kind.isFlowEntry || next.kind.isFlowMappingEnd then
        expecting .flowMappingValue
        return ← emptyScalar tok.stop
      else
        later .flowMappingValue
        return ← flowNode
    else if !tok.kind.isFlowMappingEnd then
      later .flowMappingEmptyValue
      return ← flowNode
  let tok ← takeToken
  let e ← build ⟨.mappingEnd, tok.start, tok.stop⟩
  back
  close
  return e

def flowMappingValue : Read Event := call do
  let tok ← peekToken
  if tok.kind.isValue then
    let tok ← takeToken
    let next ← peekToken
    if next.kind.isFlowEntry || next.kind.isFlowMappingEnd then
      expecting .flowMappingKey
      emptyScalar tok.stop
    else
      later .flowMappingKey
      flowNode
  else
    expecting .flowMappingKey
    emptyScalar tok.start

def flowMappingEmptyValue : Read Event := call do
  expecting .flowMappingKey
  emptyScalar (← peekToken).start

def flowSequenceFirstEntry : Read Event := call do
  openCollection
  flowSequenceEntry true

def flowMappingFirstKey : Read Event := call do
  openCollection
  flowMappingKey true

def step : Read (Option Event) := do
  match (← get).expect with
  | .streamStart => some <$> streamStart
  | .implicitDocumentStart => some <$> implicitDocumentStart
  | .documentStart => some <$> documentStart
  | .documentEnd => some <$> documentEnd
  | .documentContent => some <$> documentContent
  | .blockNode => some <$> blockNode
  | .blockSequenceFirstEntry => some <$> blockSequenceFirstEntry
  | .blockSequenceEntry => some <$> blockSequenceEntry
  | .indentlessSequenceEntry => some <$> indentlessSequenceEntry
  | .blockMappingFirstKey => some <$> blockMappingFirstKey
  | .blockMappingKey => some <$> blockMappingKey
  | .blockMappingValue => some <$> blockMappingValue
  | .flowSequenceFirstEntry => some <$> flowSequenceFirstEntry
  | .flowSequenceEntry => some <$> flowSequenceEntry false
  | .flowSequenceEntryMappingKey => some <$> flowSequenceEntryMappingKey
  | .flowSequenceEntryMappingValue => some <$> flowSequenceEntryMappingValue
  | .flowSequenceEntryMappingEnd => some <$> flowSequenceEntryMappingEnd
  | .flowMappingFirstKey => some <$> flowMappingFirstKey
  | .flowMappingKey => some <$> flowMappingKey false
  | .flowMappingValue => some <$> flowMappingValue
  | .flowMappingEmptyValue => some <$> flowMappingEmptyValue
  | .finished => return none

end Read

namespace EventReader

open Read HasRoom

/-- The reader at the start of a text, with the stream's buffer filled as reading
begins. -/
def start (text : String) : Except Refusal EventReader := do
  return ⟨← Tokenizer.start text, .streamStart, [], [], [], none, 0⟩

/-- The next event, if any, without taking it, looked at from a step with a room: the
look is a call, inside which the current state's step reads the event when none is read
ahead. -/
def peek? (room : Nat) (r : EventReader) : Except Refusal (Option Event × EventReader) := do
  let look : Read (Option Event) := call do
    match (← get).ahead with
    | some e => return some e
    | none =>
      let e ← step
      modify fun r => { r with ahead := e }
      return e
  StateT.run look { r with room }

def next? (room : Nat) (r : EventReader) : Except Refusal (Option Event × EventReader) := do
  let (e, r) ← r.peek? room
  return (e, { r with ahead := none })

end EventReader

end RestConfig.Yaml
