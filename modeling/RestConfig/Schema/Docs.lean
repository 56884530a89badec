import RestConfig.Schema.Basic
import RestConfig.Text.Blank

/-!
# Reference documentation of a schema

The keys of a schema are documented required keys first, then by importance (high
first), then by name. A key's default is shown rendered, except that a required key
shows no default, a secret shows `[hidden]` and an empty text shows a pair of quotes.
The same order and defaults serve three forms: reStructuredText blocks, table rows and
records. A rendered default, and the text of a constraint, can fail to be written (see
`RestConfig.Value.Written`).
-/

namespace RestConfig

def Key.docBefore (a b : Key) : Bool :=
  let ra := (if a.hasDefault then 1 else 0, a.importance.rank)
  let rb := (if b.hasDefault then 1 else 0, b.importance.rank)
  if ra.1 ≠ rb.1 then ra.1 < rb.1
  else if ra.2 ≠ rb.2 then ra.2 < rb.2
  else decide (a.name ≤ b.name)

def Schema.docOrder (s : Schema) : List Key := s.keys.mergeSort Key.docBefore

def Key.defaultText (k : Key) : Except Failure String :=
  match k.default with
  | none => .ok ""
  | some d =>
    match k.kind, d with
    | .password, _ | _, .secret _ => .ok hiddenText
    | .string, .text "" => .ok "\"\""
    | _, _ => d.render

def Key.defaultOrRequired (k : Key) : Except Failure String :=
  if k.hasDefault then k.defaultText else .ok "(required)"

def Key.validValues (k : Key) : Except Failure (Option String) :=
  match k.constraint with
  | none => pure none
  | some c => some <$> c.text

def Key.rstLines (k : Key) : Except Failure (List String) := do
  let docLines := match Text.lines k.doc with
    | [] => [""]
    | ls => ls
  let shown ← k.defaultOrRequired
  let valid ← k.validValues
  pure <|
    ["``" ++ k.name ++ "``"] ++
    docLines.map (fun l => Text.trimEnd ("  " ++ l)) ++
    ["", "  * Type: " ++ k.kind.name, "  * Default: " ++ shown] ++
    (match valid with
     | some v => ["  * Valid Values: " ++ v]
     | none => []) ++
    ["  * Importance: " ++ k.importance.name, ""]

def Schema.rst (s : Schema) : Except Failure String := do
  let blocks ← s.docOrder.mapM Key.rstLines
  pure ("\n".intercalate blocks.flatten)

def Key.row (k : Key) : Except Failure (List String) := do
  let shown ← k.defaultOrRequired
  pure [k.name, k.kind.name, k.importance.name, shown, " ".intercalate (Text.words k.doc)]

def docHeaders : List String := ["Name", "Type", "Importance", "Default", "Description"]

def Schema.rows (s : Schema) : Except Failure (List (List String)) := s.docOrder.mapM Key.row

/-- The documentation record of a key. -/
structure DocRecord where
  name : String
  kind : String
  importance : String
  required : Bool
  default : Option String
  validValues : Option String
  doc : String

def Key.record (k : Key) : Except Failure DocRecord := do
  let shown ← if k.hasDefault then some <$> k.defaultText else pure none
  let valid ← k.validValues
  pure { name := k.name, kind := k.kind.name, importance := k.importance.name,
         required := !k.hasDefault, default := shown, validValues := valid, doc := k.doc }

def DocRecord.toValue (r : DocRecord) : Value :=
  let text (t : Option String) : Value := match t with
    | some s => .str s
    | none => .none
  .map [(.str "name", .str r.name), (.str "type", .str r.kind), (.str "importance", .str r.importance),
    (.str "required", .bool r.required), (.str "default", text r.default),
    (.str "valid_values", text r.validValues), (.str "doc", .str r.doc)]

def Schema.records (s : Schema) : Except Failure (List DocRecord) := s.docOrder.mapM Key.record

end RestConfig
