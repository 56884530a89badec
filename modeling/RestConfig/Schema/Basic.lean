import RestConfig.Schema.Key

/-!
# Schemas and validation

A schema is an ordered table of keys, one per name. Inserting a key whose name is
already present replaces that entry where it stands; a new name goes at the end.

Validation reads a property map against a schema, key by key in schema order. A
supplied value is read as the key's kind, with the room its reading has (the same for
every key), a missing one takes the key's default, and a
missing required key is an issue; a value that was read, or a default, then meets the
key's constraint. Every offending key gives exactly one issue, and the settings are
answered only when there is no issue at all. Properties the schema does not name are
ignored.
-/

namespace RestConfig

abbrev Props := List (String × Value)

def Props.get? (props : Props) (name : String) : Option Value :=
  (props.find? (·.1 == name)).map (·.2)

def Props.set (props : Props) (name : String) (v : Value) : Props :=
  if props.any (·.1 == name) then props.map fun p => if p.1 == name then (name, v) else p
  else props ++ [(name, v)]

/-- A schema: keys in declaration order, one per name. -/
structure Schema where
  keys : List Key
  deriving Inhabited

abbrev Settings := List (String × Setting)

/-- What validation concludes. -/
inductive Verdict where
  | accepted (settings : Settings)
  | rejected (issues : List Issue)
  deriving Inhabited

namespace Schema

def empty : Schema := ⟨[]⟩

def names (s : Schema) : List String := s.keys.map (·.name)

def size (s : Schema) : Nat := s.keys.length

def find? (s : Schema) (name : String) : Option Key := s.keys.find? (·.name == name)

def contains (s : Schema) (name : String) : Bool := s.keys.any (·.name == name)

def insert (s : Schema) (k : Key) : Schema :=
  if s.contains k.name then ⟨s.keys.map fun e => if e.name == k.name then k else e⟩
  else ⟨s.keys ++ [k]⟩

def extend (s : Schema) (ks : List Key) : Schema := ks.foldl insert s

def ofKeys (ks : List Key) : Schema := empty.extend ks

/-- Declares a key: checks the declaration, reading its default with a room, and adds its key,
replacing the entry of the same name where it stands. -/
def define (s : Schema) (room : Nat) (d : Declaration) : Except Failure Schema := do
  let k ← d.toKey room
  pure (s.extend [k])

def describe (s : Schema) : String := "ConfigDef(" ++ toString s.size ++ " keys)"

end Schema

/-- The outcome of one key, a supplied value read with a room: its setting, or the issue it
raises. -/
def Key.resolve (k : Key) (room : Nat) (props : Props) : Except Failure (Except Issue Setting) := do
  let found : Except Issue Setting ←
    match props.get? k.name with
    | some raw =>
      match k.kind.read room raw with
      | .ok s => pure (.ok s)
      | .error (.mismatch kind v) =>
        pure (.error ⟨k.name, (ReadError.mismatch kind v).toFailure.message⟩)
      | .error e => throw e.toFailure
    | none =>
      match k.default with
      | some s => pure (.ok s)
      | none =>
        pure (.error ⟨k.name, "missing required configuration " ++ Text.quote k.name ++
          " which has no default value"⟩)
  match found, k.constraint with
  | .ok s, some c =>
    match c.check s.toValue with
    | .ok () => pure (.ok s)
    | .error (.badValue m) => pure (.error ⟨k.name, m⟩)
    | .error f => throw f
  | other, _ => pure other

def resolveAll (room : Nat) (props : Props) : List Key → Except Failure (Settings × List Issue)
  | [] => pure ([], [])
  | k :: ks => do
    let here ← k.resolve room props
    let (settings, issues) ← resolveAll room props ks
    match here with
    | .ok s => pure ((k.name, s) :: settings, issues)
    | .error i => pure (settings, i :: issues)

namespace Schema

def validate (s : Schema) (room : Nat) (props : Props) : Except Failure Verdict := do
  let (settings, issues) ← resolveAll room props s.keys
  if issues.isEmpty then pure (.accepted settings) else pure (.rejected issues)

def parse (s : Schema) (room : Nat) (props : Props) : Except Failure Settings := do
  match ← s.validate room props with
  | .accepted settings => pure settings
  | .rejected issues => throw (.invalidConfig issues)

def ignored (s : Schema) (props : Props) : List String :=
  ((props.map (·.1)).filter fun n => !s.contains n).mergeSort fun a b => decide (a ≤ b)

end Schema

end RestConfig
