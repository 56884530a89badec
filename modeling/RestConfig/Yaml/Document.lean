import RestConfig.Yaml.Data

/-!
# YAML documents

Loading a YAML stream gives the data of its single document, or nothing for a stream
without documents. A stream that holds a character no stream may hold is refused as soon
as the piece of the stream that holds it is read, naming the first such character and its
position. Loading takes room (see `RestConfig.Depth`): the single document is looked for
three calls below the start of loading.
-/

namespace RestConfig.Yaml

/-- The data of the single document of a text, loaded with a room; nothing when it has no
document. -/
def load (room : Nat) (text : String) : Except Refusal Data := do
  match ← Graph.ofText? (room - 3) text with
  | none => return ⟨.none, #[]⟩
  | some g => g.data

end RestConfig.Yaml
