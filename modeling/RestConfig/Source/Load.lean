import RestConfig.Source.Properties
import RestConfig.Source.Environment
import RestConfig.Source.Flatten
import RestConfig.Source.Files
import RestConfig.Toml.Document
import RestConfig.Yaml.Document

/-!
# Loading properties

A configuration file is read by the format its suffix names, in any case: `.properties`
and `.conf` as properties text, `.yaml` and `.yml` as a YAML document, `.toml` as a TOML
document. A document must be empty or have a mapping at its root, which is flattened.
A YAML document is read as a stream, so a decoding failure is placed within its block.

Loading merges three sources, each overriding the one before: the file (when a path is
given), the environment variables with the lead, and explicit overrides written as texts
in sorted order of their names.
-/

namespace RestConfig.Source

open RestConfig.Files

/-- The formats of configuration files. -/
inductive Format where
  | properties
  | yaml
  | toml

def Format.ofSuffix? (sfx : String) : Option Format :=
  match Text.lower sfx with
  | ".properties" | ".conf" => some .properties
  | ".yaml" | ".yml" => some .yaml
  | ".toml" => some .toml
  | _ => none

def notMapping (typeName path : String) : Failure :=
  .badSource ("config root must be a mapping, got " ++ typeName ++ ": " ++ path)

def rootProperties (room : Nat) (path : String) : Value → Except Failure (List (String × String))
  | .none => .ok []
  | .map entries => Flatten.flatten room entries
  | v => .error (notMapping v.typeName path)

/-- How flattening sees the data of a YAML document: dictionaries are mappings, lists and
pairs are sequences, and everything else has no parts. -/
def yamlShape (doc : Yaml.Data) : Yaml.Datum → Flatten.Shape Yaml.Datum
  | .cell i =>
    match doc.cells[i]? with
    | some (.list items) => .sequence items
    | some (.dict entries) => .mapping (entries.map fun (k, v) => (k.keyValue, v))
    | some (.set members) => .atom (.set (members.map (·.keyValue)))
    | none => .atom .none
  | .pair k v => .sequence [k, v]
  | d => .atom d.scalarValue

def yamlProperties (room : Nat) (path : String) (doc : Yaml.Data) :
    Except Failure (List (String × String)) :=
  match yamlShape doc doc.root with
  | .atom .none => .ok []
  | .mapping entries => Flatten.flattenIn (yamlShape doc) room entries
  | _ => .error (notMapping (doc.typeName doc.root) path)

def yamlValueFailure : Yaml.Unbuildable → Failure
  | .badLiteral m => .badArgument m
  | .notBoolean w => .unknownName w
  | .emptyNumber => .outOfRange Yaml.Unbuildable.emptyNumber.message
  | .notTimestamp => .missingAttribute Yaml.Unbuildable.notTimestamp.message
  | .timestampOfMapping => .wrongType Yaml.Unbuildable.timestampOfMapping.message
  | .placeTooLarge => .tooLarge Yaml.Unbuildable.placeTooLarge.message
  | .tooDeep => .tooDeep Yaml.Unbuildable.tooDeep.message

/-- Reads a configuration file of a tree into flat properties, with a room; a leading `~`
part of its path names a home directory, `home` being the reader's own. The document is
read and flattened one call down. -/
def readConfig (tree : Tree) (home : String) (room : Nat) (path : String) :
    Except Failure (List (String × String)) := do
  let p ← match expandHome home path with
    | .ok p => pure p
    | .error m => throw (.unknownHome m)
  let entry ← match tree.lookup p with
    | .file e => pure e
    | .missing => throw (.badSource ("config file not found: " ++ p))
    | .tooLong => throw (.systemLimit ("[Errno 36] File name too long: " ++ Text.quote p))
  let sfx := suffix p
  let some format := Format.ofSuffix? sfx
    | throw (.badSource ("unsupported config format " ++ Text.quote sfx ++ ": " ++ p))
  let decoded := match format with
    | .yaml => entry.streamed
    | _ => entry.decoded
  let text ← match decoded with
    | .ok t => pure t
    | .error e => throw (.badSource ("unable to read config file " ++ p ++ ": " ++ e.message))
  match format with
  | .properties => Properties.parse (String.ofList (Text.universalNewlines text.toList))
  | .yaml =>
    match Yaml.load (room - 1) text with
    | .ok doc => yamlProperties (room - 1) p doc
    | .error (.unbuildable u) => throw (yamlValueFailure u)
    | .error (.tooDeep site) => throw site.failure
    | .error r => throw (.badSource ("invalid YAML in " ++ p ++ ": " ++ r.message p))
  | .toml =>
    match Toml.parse (room - 1) text with
    | .ok table => rootProperties (room - 1) p (.map table)
    | .error (.invalid m) => throw (.badSource ("invalid TOML in " ++ p ++ ": " ++ m))
    | .error (.tooManyDigits n) => throw (.badArgument (Reading.tooManyDigitsMessage n))
    | .error (.tooDeep site) => throw site.failure

def setValue (m : List (String × Value)) (k : String) (v : Value) : List (String × Value) :=
  if m.any (·.1 == k) then m.map fun p => if p.1 == k then (k, v) else p else m ++ [(k, v)]

/-- Merges the file, the environment and the overrides, with a room; the file is read and
the overrides are written one call down. -/
def load (tree : Tree) (home : String) (room : Nat) (path : Option String)
    (environ : List (String × Value)) (overrides : List (String × Value)) (lead : String) :
    Except Failure (List (String × Value)) := do
  let fromFile ← match path with
    | some p => readConfig tree home (room - 1) p
    | none => pure []
  let merged := fromFile.map fun (k, v) => (k, Value.str v)
  let merged := (Environment.properties environ lead).foldl (fun m (k, v) => setValue m k v) merged
  let sortedOverrides := overrides.mergeSort fun a b => decide (a.1 ≤ b.1)
  sortedOverrides.foldlM (fun m (k, v) => do
    let s ← Flatten.stringify (room - 1) k v
    pure (setValue m k (.str s))) merged

end RestConfig.Source
