import RestConfig.Value.Order
import RestConfig.Value.Written
import RestConfig.Failure

/-!
# Constraints on settings

A key may constrain its setting. A *range* bounds it below, above, both or neither, and
refuses nothing at all (the null value) first, then a value below the lower bound, then
one above the upper bound; a value that cannot be compared with a bound is an error of
kind, and not-a-number passes every bound. A *choice* admits exactly the values equal
to one of a fixed, non-empty list of texts. A message or a text that shows a bound writes it
as text, so a bound that cannot be written (see `RestConfig.Value.Written`) makes it fail.
-/

namespace RestConfig

/-- A constraint on a key's setting. -/
inductive Constraint where
  | range (low high : Option Value)
  | oneOf (choices : List Value)
  deriving Inhabited

namespace Constraint

def atLeast (low : Value) : Constraint :=
  .range (match low with | .none => none | v => some v) none

def between (low high : Value) : Except Failure Constraint :=
  match Value.greaterThan low high with
  | .error m => .error (.wrongType m)
  | .ok true => do
    let lo ← low.toText
    let hi ← high.toText
    .error (.badDefinition ("empty range [" ++ lo ++ ", " ++ hi ++ "]"))
  | .ok false => .ok (.range (some low) (some high))

def choices (cs : List Value) : Except Failure Constraint :=
  if cs.isEmpty then .error (.badDefinition "ValidString requires at least one choice")
  else .ok (.oneOf cs)

def joinTexts (sep : String) (items : List Value) : Except Failure String :=
  let rec go : Nat → List Value → Except Failure (List String)
    | _, [] => .ok []
    | i, .str s :: rest => (go (i + 1) rest).map (s :: ·)
    | i, v :: _ =>
      .error (.wrongType ("sequence item " ++ toString i ++ ": expected str instance, " ++
        v.typeName ++ " found"))
  (go 0 items).map (sep.intercalate ·)

def rangeText : Option Value → Option Value → Except Failure String
  | none, none => .ok "[...]"
  | some lo, none => lo.toText.map fun l => "[" ++ l ++ ",...]"
  | none, some hi => hi.toText.map fun h => "[...," ++ h ++ "]"
  | some lo, some hi => do
    let l ← lo.toText
    let h ← hi.toText
    pure ("[" ++ l ++ ",...," ++ h ++ "]")

def text : Constraint → Except Failure String
  | .range lo hi => rangeText lo hi
  | .oneOf cs => (joinTexts ", " cs).map fun s => "[" ++ s ++ "]"

def check : Constraint → Value → Except Failure Unit
  | .range _ _, .none => .error (.badValue "value must not be null")
  | .range lo hi, v => do
    if let some l := lo then
      match Value.lessThan v l with
      | .error m => throw (.wrongType m)
      | .ok true =>
        match hi with
        | none => throw (.badValue ("value must be >= " ++ (← l.toText)))
        | some _ => throw (.badValue ("value must be in " ++ (← rangeText lo hi)))
      | .ok false => pure ()
    if let some h := hi then
      match Value.greaterThan v h with
      | .error m => throw (.wrongType m)
      | .ok true => throw (.badValue ("value must be in " ++ (← rangeText lo hi)))
      | .ok false => pure ()
  | .oneOf cs, v =>
    if cs.any (Value.same v) then .ok ()
    else do
      let listed ← joinTexts ", " cs
      throw (.badValue ("value must be one of: " ++ listed))

end Constraint

end RestConfig
