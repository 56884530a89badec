import RestConfig.Value.Basic

/-!
# TOML tables under construction

A TOML document is read statement by statement into a tree of tables. A table is an
ordered list of named items; an item is a value, a table, or an array (of values or of
tables). Headers and dotted keys address a table by a path of names: the path is
walked from the root, missing tables are created on the way, and where the path meets an
array of tables it goes into the array's last table.

Beside the tree, marks on paths record what may no longer change: a table that was
declared by a header, or opened by a dotted key, is *explicit* and cannot be declared
again; an inline table or array is *frozen*, with everything under it. A mark is either
on a path alone or on a path and everything below it.
-/

namespace RestConfig.Toml

/-- An item of a TOML table. -/
inductive Item where
  | scalar (v : Value)
  | table (entries : List (String × Item))
  | array (items : List Item)
  deriving Inhabited

abbrev Entries := List (String × Item)

mutual
def Item.toValue : Item → Value
  | .scalar v => v
  | .table entries => .map (entriesToValue entries)
  | .array items => .list (itemsToValue items)

def entriesToValue : Entries → List (Value × Value)
  | [] => []
  | (k, i) :: rest => (.str k, i.toValue) :: entriesToValue rest

def itemsToValue : List Item → List Value
  | [] => []
  | i :: rest => i.toValue :: itemsToValue rest
end

def Item.isContainer : Item → Bool
  | .scalar _ => false
  | _ => true

def lookup (entries : Entries) (k : String) : Option Item :=
  (entries.find? (·.1 == k)).map (·.2)

def put (entries : Entries) (k : String) (i : Item) : Entries :=
  if entries.any (·.1 == k) then entries.map fun (n, old) => if n == k then (n, i) else (n, old)
  else entries ++ [(k, i)]

/-- The table a path leads to, changed by `f`: missing tables are created, and an array
of tables is entered at its last table when `intoArrays` holds. Where the path meets a
value that is not a table, the answer is `blocked`. -/
def updateNest {ε : Type} (intoArrays : Bool) (blocked : ε) (f : Entries → Except ε Entries) :
    List String → Entries → Except ε Entries
  | [], entries => f entries
  | k :: rest, entries =>
    let entries := if entries.any (·.1 == k) then entries else entries ++ [(k, .table [])]
    match lookup entries k with
    | some (.table inner) => do
      let inner ← updateNest intoArrays blocked f rest inner
      pure (put entries k (.table inner))
    | some (.array items) =>
      if intoArrays then
        match items.getLast? with
        | some (.table inner) => do
          let inner ← updateNest intoArrays blocked f rest inner
          pure (put entries k (.array (items.dropLast ++ [.table inner])))
        | _ => .error blocked
      else .error blocked
    | _ => .error blocked

/-- Adds a fresh table at the end of the array of tables at a path, creating the array if
it is missing. Fails if the path holds something else. -/
def appendTable (path : List String) (entries : Entries) : Except Unit Entries :=
  match path.getLast? with
  | some last =>
    updateNest true () (fun inner =>
      match lookup inner last with
      | some (.array items) => .ok (put inner last (.array (items ++ [.table []])))
      | some _ => .error ()
      | none => .ok (inner ++ [(last, .array [.table []])])) path.dropLast entries
  | none => .error ()

/-- The marks a table may carry. -/
inductive Mark where
  | frozen
  | explicit
  deriving DecidableEq, Inhabited

/-- Marks on a tree of paths: on a node alone, on a node and all below it, and the marks
of the nodes below. -/
inductive Marks where
  | node (own : List Mark) (deep : List Mark) (children : List (String × Marks))
  deriving Inhabited

namespace Marks

def empty : Marks := .node [] [] []

def own : Marks → List Mark
  | .node o _ _ => o

def deep : Marks → List Mark
  | .node _ b _ => b

def children : Marks → List (String × Marks)
  | .node _ _ c => c

def child? (m : Marks) (k : String) : Option Marks :=
  (m.children.find? (·.1 == k)).map (·.2)

def withChild (m : Marks) (k : String) (c : Marks) : Marks :=
  let cs := m.children
  let cs := if cs.any (·.1 == k) then cs.map fun (n, old) => if n == k then (n, c) else (n, old)
    else cs ++ [(k, c)]
  .node m.own m.deep cs

/-- Whether a path carries a mark: on the path itself, or on a table above it for the
whole subtree. The root carries none. -/
def has (m : Marks) (path : List String) (mark : Mark) : Bool :=
  match path with
  | [] => false
  | [k] => match m.child? k with
    | some c => c.own.contains mark || c.deep.contains mark
    | none => false
  | k :: rest => match m.child? k with
    | some c => c.deep.contains mark || c.has rest mark
    | none => false

def set (m : Marks) (path : List String) (mark : Mark) (subtree : Bool) : Marks :=
  match path with
  | [] => if subtree then .node m.own (m.deep ++ [mark]) m.children
    else .node (m.own ++ [mark]) m.deep m.children
  | k :: rest =>
    let c := (m.child? k).getD empty
    m.withChild k (c.set rest mark subtree)

def clear (m : Marks) (path : List String) : Marks :=
  match path with
  | [] => m
  | [k] => .node m.own m.deep (m.children.filter (·.1 != k))
  | k :: rest => match m.child? k with
    | some c => m.withChild k (c.clear rest)
    | none => m

end Marks

end RestConfig.Toml
