import RestConfig.Yaml.Stream

/-!
# YAML tokens

A YAML stream is first cut into tokens: indicators (`[`, `{`, `?`, `:`, `-`, `,` and
their closing partners), the implicit starts and ends of indented blocks, directives,
anchors, aliases, tags and scalars. Each token carries the marks where it starts and
stops. A token's *name* is how it is called in messages: the indicator itself, or a
description such as `<block end>`.
-/

namespace RestConfig.Yaml

/-- How a scalar was written. -/
inductive ScalarStyle where
  | plain
  | singleQuoted
  | doubleQuoted
  | literal
  | folded
  deriving DecidableEq, Inhabited

/-- The argument of a directive: a version for `%YAML`, a handle and its expansion for
`%TAG`, nothing for any other directive. -/
inductive DirectiveValue where
  | none
  | version (major minor : Nat)
  | handle (handle expansion : String)
  deriving Inhabited

/-- What a token is. -/
inductive TokenKind where
  | streamStart
  | streamEnd
  | directive (name : String) (value : DirectiveValue)
  | documentStart
  | documentEnd
  | blockSequenceStart
  | blockMappingStart
  | blockEnd
  | flowSequenceStart
  | flowMappingStart
  | flowSequenceEnd
  | flowMappingEnd
  | key
  | value
  | blockEntry
  | flowEntry
  | alias (name : String)
  | anchor (name : String)
  | tag (handle : Option String) (suffix : String)
  | scalar (text : String) (plain : Bool) (style : ScalarStyle)
  deriving Inhabited

/-- A token with the marks where it starts and stops. -/
structure Token where
  kind : TokenKind
  start : Mark
  stop : Mark
  deriving Inhabited

namespace TokenKind

def name : TokenKind → String
  | .streamStart => "<stream start>"
  | .streamEnd => "<stream end>"
  | .directive _ _ => "<directive>"
  | .documentStart => "<document start>"
  | .documentEnd => "<document end>"
  | .blockSequenceStart => "<block sequence start>"
  | .blockMappingStart => "<block mapping start>"
  | .blockEnd => "<block end>"
  | .flowSequenceStart => "["
  | .flowMappingStart => "\x7b"
  | .flowSequenceEnd => "]"
  | .flowMappingEnd => "\x7d"
  | .key => "?"
  | .value => ":"
  | .blockEntry => "-"
  | .flowEntry => ","
  | .alias _ => "<alias>"
  | .anchor _ => "<anchor>"
  | .tag _ _ => "<tag>"
  | .scalar _ _ _ => "<scalar>"

end TokenKind

end RestConfig.Yaml
