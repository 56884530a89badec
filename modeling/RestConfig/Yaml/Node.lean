import RestConfig.Yaml.Event.Parse
import RestConfig.Yaml.Tag

/-!
# YAML node graphs

The events of a document are composed into a graph of nodes: scalars, sequences and
mappings, each with its tag and the mark where it starts. Nodes are numbered in the
order they start; an alias stands for the node that carries its anchor, so a node may
be shared, and may even contain itself. A node without an explicit tag (or with the tag
`!`) gets one: a scalar the tag its text implies (when written plain) or `str`, a
sequence `seq`, a mapping `map`.

A stream must hold at most one document. An alias must name an anchor met before it in
the same document, and an anchor may not be given twice in one document.

## Room

Composing takes room (see `RestConfig.Depth`). Composing a node is a call, and so is
composing its content, one call deeper, so each level of nesting takes two units; every
look at the events, the steps that note and leave a node's place in the document, and
choosing a node's tag are calls too. Building a node or an error calls a value that runs
a step; trying the rules of a plain scalar's first character calls a value; a message
that shows an anchor writes its representation.
-/

namespace RestConfig.Yaml

open RestConfig.Text

/-- What a node holds: text, or the numbers of its items or of its keys and values. -/
inductive NodeBody where
  | scalar (value : String)
  | sequence (items : List Nat)
  | mapping (pairs : List (Nat × Nat))
  deriving Inhabited

/-- A node: its tag, what it holds and where it starts. -/
structure Node where
  tag : String
  body : NodeBody
  start : Mark
  deriving Inhabited

def Node.kindName (n : Node) : String :=
  match n.body with
  | .scalar _ => "scalar"
  | .sequence _ => "sequence"
  | .mapping _ => "mapping"

/-- A document's nodes, by number, and its root. -/
structure Graph where
  nodes : Array Node
  root : Nat
  deriving Inhabited

/-- The state of composing: the events, the nodes so far, the anchors in scope and the
room of the running step. -/
structure Composer where
  events : EventReader
  nodes : Array Node
  anchors : List (String × Nat)
  room : Nat
  deriving Inhabited

instance : HasRoom Composer := ⟨Composer.room, fun c room => { c with room }⟩

abbrev Compose := StateT Composer (Except Refusal)

namespace Compose

open HasRoom

def peekEvent : Compose Event := do
  let c ← get
  let (e, events) ← c.events.peek? c.room
  set { c with events }
  return e.getD default

def takeEvent : Compose Event := do
  let c ← get
  let (e, events) ← c.events.next? c.room
  set { c with events }
  return e.getD default

def addNode (n : Node) (anchor : Option String) : Compose Nat := do
  let c ← get
  let id := c.nodes.size
  let anchors := match anchor with
    | some a => c.anchors ++ [(a, id)]
    | none => c.anchors
  set { c with nodes := c.nodes.push n, anchors }
  return id

def setBody (id : Nat) (body : NodeBody) : Compose Unit :=
  modify fun c => { c with nodes := c.nodes.modify id fun n => { n with body } }

def exhausted : Refusal := .marked ⟨none, none, some "document too deeply nested", none⟩

def hasRules (value : String) : Bool :=
  Implicit.rules.any fun (_, first, _) => first value.toList.head?

/-- The tag of a scalar with no explicit tag (or the tag `!`): implied by its text when
`implicit`, a string otherwise. -/
def resolveScalar (value : String) (implicit : Bool) : Compose String := call do
  if implicit && hasRules value then callValue
  return scalarTag value implicit

def resolveCollection (default_ : String) : Compose String := call (pure default_)

/-- The tag of a collection: the explicit one, or the default when there is none or it
is `!`. -/
def collectionTag (tag : Option String) (default_ : String) : Compose String :=
  match tag with
  | some t => if t == "!" then resolveCollection default_ else pure t
  | none => resolveCollection default_

def notePlace : Compose Unit := call (pure ())

def composeScalar (anchor : Option String) : Compose Nat := call do
  let e ← takeEvent
  let (tag, value) ← match e.kind with
    | .scalar _ tag plainImplicit _ value =>
      let tag ← match tag with
        | some t => if t == "!" then resolveScalar value plainImplicit else pure t
        | none => resolveScalar value plainImplicit
      pure (tag, value)
    | _ => throw exhausted
  callInto
  addNode ⟨tag, .scalar value, e.start⟩ anchor

mutual
def composeNode : Nat → Compose Nat
  | 0 => throw exhausted
  | fuel + 1 => call do
    let e ← peekEvent
    if let .alias name := e.kind then
      discard takeEvent
      match (← get).anchors.lookup name with
      | some id => return id
      | none =>
        showValue
        callInto
        throw (Problem.make none none ("found undefined alias " ++ quote name) e.start)
    let e ← peekEvent
    if let some a := e.kind.anchor? then
      if let some id := (← get).anchors.lookup a then
        let first := ((← get).nodes[id]?.map (·.start)).getD default
        showValue
        callInto
        throw (Problem.make (some ("found duplicate anchor " ++ quote a ++ "; first occurrence"))
          (some first) "second occurrence" e.start)
    notePlace
    let id ← match e.kind with
      | .scalar anchor _ _ _ _ => composeScalar anchor
      | .sequenceStart anchor tag _ => composeSequence fuel anchor tag
      | .mappingStart anchor tag _ => composeMapping fuel anchor tag
      | _ => throw exhausted
    notePlace
    return id

def composeSequence : Nat → Option String → Option String → Compose Nat
  | 0, _, _ => throw exhausted
  | fuel + 1, anchor, tag => call do
    let e ← takeEvent
    let tag ← collectionTag tag seqTag
    callInto
    let id ← addNode ⟨tag, .sequence [], e.start⟩ anchor
    let items ← composeItems fuel []
    discard takeEvent
    setBody id (.sequence items)
    return id

def composeMapping : Nat → Option String → Option String → Compose Nat
  | 0, _, _ => throw exhausted
  | fuel + 1, anchor, tag => call do
    let e ← takeEvent
    let tag ← collectionTag tag mapTag
    callInto
    let id ← addNode ⟨tag, .mapping [], e.start⟩ anchor
    let pairs ← composePairs fuel []
    discard takeEvent
    setBody id (.mapping pairs)
    return id

def composeItems : Nat → List Nat → Compose (List Nat)
  | 0, _ => throw exhausted
  | fuel + 1, acc => do
    if (← peekEvent).kind.isSequenceEnd then return acc
    let item ← composeNode fuel
    composeItems fuel (acc ++ [item])

def composePairs : Nat → List (Nat × Nat) → Compose (List (Nat × Nat))
  | 0, _ => throw exhausted
  | fuel + 1, acc => do
    if (← peekEvent).kind.isMappingEnd then return acc
    let key ← composeNode fuel
    let value ← composeNode fuel
    composePairs fuel (acc ++ [(key, value)])
end

/-- Composes a document: its start, its root node and its end; anchors do not reach
past it. -/
def composeDocument (fuel : Nat) : Compose Nat := call do
  discard takeEvent
  let root ← composeNode fuel
  discard takeEvent
  modify fun c => { c with anchors := [] }
  return root

def singleDocument (fuel : Nat) : Compose (Option Nat) := do
  discard takeEvent
  let root ←
    if (← peekEvent).kind.isStreamEnd then pure none
    else some <$> composeDocument fuel
  let next ← peekEvent
  if !next.kind.isStreamEnd then
    let e ← takeEvent
    let nodes := (← get).nodes
    let first := match root with
      | some id => nodes[id]?.map (·.start)
      | none => none
    callInto
    throw (Problem.make (some "expected a single document in the stream") first
      "but found another document" e.start)
  discard takeEvent
  return root

end Compose

open Compose

/-- Composes the single document of a text, from a step with a room; `none` for a stream
without documents. -/
def Graph.ofText? (room : Nat) (text : String) : Except Refusal (Option Graph) := do
  let events ← EventReader.start text
  let (root, c) ← StateT.run (singleDocument (16 * (text.length + 8))) ⟨events, #[], [], room⟩
  return root.map fun r => ⟨c.nodes, r⟩

end RestConfig.Yaml
