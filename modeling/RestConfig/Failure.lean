/-!
# Failures

Every operation of the library either answers or fails, and a failure says what kind of
thing went wrong together with its message. A validation failure carries its issues,
one per offending key, and its message lists them.
-/

namespace RestConfig

/-- One offending key and what is wrong with it. -/
structure Issue where
  path : String
  message : String
  deriving DecidableEq, Inhabited

def Issue.report (issues : List Issue) : String :=
  let body :=
    if issues.isEmpty then "unknown validation failure"
    else "\n".intercalate (issues.map fun i => "- " ++ i.path ++ ": " ++ i.message)
  "invalid config:\n" ++ body

/-- Why an operation failed. -/
inductive Failure where
  | badValue (message : String)
  | badDefinition (message : String)
  | invalidConfig (issues : List Issue)
  | badConsumer (message : String)
  | badSource (message : String)
  | badArgument (message : String)
  | unknownName (message : String)
  | wrongType (message : String)
  | tooLarge (message : String)
  | immutable (message : String)
  | missingAttribute (message : String)
  | systemLimit (message : String)
  | outOfRange (message : String)
  | tooDeep (message : String)
  | unknownHome (message : String)
  deriving Inhabited

def Failure.message : Failure → String
  | .badValue m | .badDefinition m | .badConsumer m | .badSource m | .badArgument m
  | .unknownName m | .wrongType m | .tooLarge m | .immutable m | .missingAttribute m
  | .systemLimit m | .outOfRange m | .tooDeep m | .unknownHome m => m
  | .invalidConfig issues => Issue.report issues

def Failure.kind : Failure → String
  | .badValue _ => "ConfigValueError"
  | .badDefinition _ => "ConfigDefinitionError"
  | .invalidConfig _ => "ConfigValidationError"
  | .badConsumer _ => "ConsumerConfigError"
  | .badSource _ => "ConfigLoadError"
  | .badArgument _ => "ValueError"
  | .unknownName _ => "KeyError"
  | .wrongType _ => "TypeError"
  | .tooLarge _ => "OverflowError"
  | .immutable _ | .missingAttribute _ => "AttributeError"
  | .systemLimit _ => "OSError"
  | .outOfRange _ => "IndexError"
  | .tooDeep _ => "RecursionError"
  | .unknownHome _ => "RuntimeError"

end RestConfig
