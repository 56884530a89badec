import RestConfig.Value.Basic
import RestConfig.Failure
import RestConfig.Text.Case
import RestConfig.Text.Quoted

/-!
# Environment variable names

A property is read from an environment variable whose name is the property's name,
upper-cased, after a lead text. In the name, `___` stands for `-`, `__` for `_` and a
single `_` for `.`; every other character is lower-cased on its own. A property name
that does not come back this way from its encoding has no variable name.
-/

namespace RestConfig.Environment

def defaultLead : String := "KAFKA_REST_"

def propertyChars : List Char → List Char
  | '_' :: '_' :: '_' :: rest => '-' :: propertyChars rest
  | '_' :: '_' :: rest => '_' :: propertyChars rest
  | '_' :: rest => '.' :: propertyChars rest
  | c :: rest => Text.lowerChar c ++ propertyChars rest
  | [] => []

def propertyName (suffix : String) : String := String.ofList (propertyChars suffix.toList)

def encodeChar : Char → List Char
  | '-' => ['_', '_', '_']
  | '_' => ['_', '_']
  | '.' => ['_']
  | c => [c]

/-- The variable name of a property, after the lead, when the property comes back from it. -/
def variableName (name : String) (lead : String) : Except Failure String :=
  let encoded := Text.upper (String.ofList (name.toList.flatMap encodeChar))
  if propertyName encoded = name then .ok (lead ++ encoded)
  else .error (.badSource ("property " ++ Text.quote name ++ " cannot be expressed as an env var name"))

/-- The properties named by variables with the lead (and something after it), in sorted
order of the variable names; a later variable for the same property wins. -/
def properties (environ : List (String × Value)) (lead : String) :
    List (String × Value) :=
  let names := (environ.filter fun (n, _) => lead.toList.isPrefixOf n.toList && n.length > lead.length)
  let sorted := names.mergeSort fun a b => decide (a.1 ≤ b.1)
  sorted.foldl (fun acc (n, v) =>
    let p := propertyName (String.ofList (n.toList.drop lead.length))
    if acc.any (·.1 == p) then acc.map fun e => if e.1 == p then (p, v) else e
    else acc ++ [(p, v)]) []

end RestConfig.Environment
