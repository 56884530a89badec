import RestConfig.Setting.Read
import RestConfig.Constraint

/-!
# Keys

A key names a setting and declares its kind, its default (or that it is required), its
importance, its documentation and an optional constraint. A declaration is checked
before it becomes a key: the name must be a text with something besides blanks, kind
and importance must be known, and a default must read as the kind and pass the
constraint. The first of these checks that fails decides the message.
-/

namespace RestConfig

/-- A schema entry. `default` is `none` for a required key. -/
structure Key where
  name : String
  kind : Kind
  default : Option Setting
  importance : Importance
  doc : String
  constraint : Option Constraint
  deriving Inhabited

/-- A key declaration as given, before it is checked. The kind and importance are given by
name, and anything that is not a known name is kept as given; the default is the
required marker for a required key. -/
structure Declaration where
  name : Value
  kind : Value
  default : Value
  importance : Value
  doc : String
  constraint : Option Constraint

def Key.hasDefault (k : Key) : Bool := k.default.isSome

def Kind.ofValue? : Value → Option Kind
  | .str s => Kind.ofName? s
  | _ => none

def Importance.ofValue? : Value → Option Importance
  | .str s => Importance.ofName? s
  | _ => none

def invalidDefault (name : String) (f : Failure) : Failure :=
  match f with
  | .badValue m => .badDefinition ("invalid default for " ++ Text.quote name ++ ": " ++ m)
  | other => other

def Declaration.toKey (d : Declaration) (room : Nat) : Except Failure Key := do
  let name ← match d.name with
    | .str s => if (Text.trim s).isEmpty then
        throw (.badDefinition "config name must be a non-empty string") else pure s
    | _ => throw (.badDefinition "config name must be a non-empty string")
  let kind ← match Kind.ofValue? d.kind with
    | some k => pure k
    | none =>
      throw (.badDefinition ("unknown config type " ++ d.kind.literal ++ " for " ++
        Text.quote name))
  let importance ← match Importance.ofValue? d.importance with
    | some i => pure i
    | none =>
      throw (.badDefinition ("unknown importance " ++ d.importance.literal ++ " for " ++
        Text.quote name))
  let default ← match d.default with
    | .required => pure none
    | raw => do
      let s ← (kind.read room raw).mapError fun e => invalidDefault name e.toFailure
      if let some c := d.constraint then
        (c.check s.toValue).mapError (invalidDefault name)
      pure (some s)
  pure { name, kind, default, importance, doc := d.doc, constraint := d.constraint }

end RestConfig
