import RestConfig.Yaml.Token

/-!
# YAML events

The tokens of a stream are grouped into events: the stream and each document start and
end, each scalar, alias, and the start and end of each sequence and mapping. A node's
event carries its anchor and its tag (a tag handle already expanded), and whether its
tag may be chosen from its text: a scalar records this twice, once for the case that
its text looks like a typed value (it was written plain, with no tag or the tag `!`),
and once for the case that it does not (it has no tag at all).
-/

namespace RestConfig.Yaml

/-- What an event is. -/
inductive EventKind where
  | streamStart
  | streamEnd
  | documentStart
  | documentEnd
  | alias (name : String)
  | scalar (anchor tag : Option String) (plainImplicit quotedImplicit : Bool) (value : String)
  | sequenceStart (anchor tag : Option String) (implicit : Bool)
  | sequenceEnd
  | mappingStart (anchor tag : Option String) (implicit : Bool)
  | mappingEnd
  deriving Inhabited

/-- An event with the marks where it starts and stops. -/
structure Event where
  kind : EventKind
  start : Mark
  stop : Mark
  deriving Inhabited

namespace EventKind

def anchor? : EventKind → Option String
  | .scalar a _ _ _ _ | .sequenceStart a _ _ | .mappingStart a _ _ => a
  | _ => none

def isStreamEnd : EventKind → Bool
  | .streamEnd => true
  | _ => false

def isSequenceEnd : EventKind → Bool
  | .sequenceEnd => true
  | _ => false

def isMappingEnd : EventKind → Bool
  | .mappingEnd => true
  | _ => false

end EventKind

end RestConfig.Yaml
