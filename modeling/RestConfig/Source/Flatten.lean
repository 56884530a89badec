import RestConfig.Value.Text
import RestConfig.Number.Reading
import RestConfig.Depth

/-!
# Flattening documents

A nested document becomes flat properties: each path from the root to a value that is
not a mapping gives a dotted name, the keys' displays joined by dots, and the value
written as text. At every level the keys are visited in sorted order of their displays
(keys with the same display keep their order), and a later path with the same dotted
name wins. A path that ends in an empty mapping gives nothing.

Values are written as text: nothing as the empty text, booleans in lower case, texts
and numbers by their display, and lists and tuples item by item joined by commas. Any
other value has no text, and its property cannot be formed. An integer of more than 4300
digits is not written in decimal, whether it is a value or a key; the keys of a mapping
are all displayed before anything below them is visited.

Flattening works on any document that shows, for each of its values, whether it is a
mapping, a list (or tuple) or a value without parts: a tree of values, or a graph whose
collections may hold themselves.

## Room

Flattening takes room (see `RestConfig.Depth`) as it descends. A mapping one level down
takes one unit more. Testing whether a value is a mapping needs four units beyond its
mapping's, and the test fails in a comparison when they are missing. Writing a value
needs one unit for its type test; a list needs two more to start on its items and three
more for each item, which is written with three units less. A collection that holds itself
is therefore always refused, and a mapping one always in a comparison.
-/

namespace RestConfig.Flatten

/-- How flattening sees a value: a mapping with its keys and values, a list or tuple with
its items, or a value without parts. -/
inductive Shape (α : Type) where
  | mapping (entries : List (Value × α))
  | sequence (items : List α)
  | atom (v : Value)

def treeShape : Value → Shape Value
  | .map entries => .mapping entries
  | .list items | .tuple items => .sequence items
  | v => .atom v

def intText (i : Int) : Except Failure String :=
  if (toString i.natAbs).length > Reading.integerDigitLimit then
    .error (.badArgument Reading.writeLimitMessage)
  else .ok (toString i)

def keyText : Value → Except Failure String
  | .int i => intText i
  | k => .ok k.display

def unsupported (name typeName : String) : Except Failure String :=
  .error (.badSource ("unsupported value for " ++ Text.quote name ++ ": " ++ typeName))

def stringifyIn {α : Type} (shape : α → Shape α) (name : String) : Nat → α → Except Failure String
  | room, v =>
    match shape v, room with
    | .atom .none, _ => .ok ""
    | .atom (.bool b), _ => .ok (if b then "true" else "false")
    | _, 0 => .error Site.typeTest.failure
    | .atom (.str s), _ => .ok s
    | .atom (.int i), _ => intText i
    | .atom (.float x), _ => .ok x.text
    | .sequence _, 1 => .error Site.call.failure
    | .sequence [], _ => .ok ""
    | .sequence _, 2 => .error Site.call.failure
    | .sequence items, r + 3 => (",".intercalate ·) <$> items.mapM (stringifyIn shape name r)
    | .mapping _, _ => unsupported name "dict"
    | .atom v, _ => unsupported name v.typeName

/-- The flat pairs below a mapping with a room, in visiting order, in a document seen
through `shape`: the keys are displayed and sorted, then each value is tested and either
flattened one level down or written. -/
def pairsIn {α : Type} (shape : α → Shape α) : Nat → List String → List (Value × α) →
    Except Failure (List (String × String))
  | room, path, entries => do
    let shown ← entries.mapM fun (k, v) => return ((← keyText k), v)
    let ordered := shown.mergeSort fun a b => decide (a.1 ≤ b.1)
    let found ← ordered.mapM fun (k, v) =>
      let here := path ++ [k]
      match room with
      | r + 4 =>
        match shape v with
        | .mapping es => pairsIn shape (r + 3) here es
        | _ =>
          let name := ".".intercalate here
          (stringifyIn shape name (r + 3) v).map fun s => [(name, s)]
      | _ => .error Site.comparison.failure
    pure found.flatten
termination_by room _ _ => room

def setName (m : List (String × String)) (k v : String) : List (String × String) :=
  if m.any (·.1 == k) then m.map fun p => if p.1 == k then (k, v) else p else m ++ [(k, v)]

/-- The flat properties of a root mapping with a room, in a document seen through
`shape`. -/
def flattenIn {α : Type} (shape : α → Shape α) (room : Nat) (entries : List (Value × α)) :
    Except Failure (List (String × String)) := do
  let found ← pairsIn shape room [] entries
  pure (found.foldl (fun m (k, v) => setName m k v) [])

def stringify (room : Nat) (name : String) (v : Value) : Except Failure String :=
  stringifyIn treeShape name room v

def flatten (room : Nat) (entries : List (Value × Value)) : Except Failure (List (String × String)) :=
  flattenIn treeShape room entries

end RestConfig.Flatten
