import RestConfig.Value.Text
import RestConfig.Failure
import RestConfig.Text.Blank
import RestConfig.Text.Case

/-!
# Log levels

A log level is an integer; larger is more severe. Five levels have names (`DEBUG` 10,
`INFO` 20, `WARNING` 30, `ERROR` 40, `CRITICAL` 50) and `NOTSET` is 0; `WARN` and `FATAL`
are accepted as spellings of 30 and 50 but never printed. A level given as text is
trimmed and upper-cased before it is looked up, and an integer (or a boolean, which
counts as one) is taken as it is.
-/

namespace RestConfig.Level

open RestConfig.Text

def spellings : List (String × Int) :=
  [("CRITICAL", 50), ("FATAL", 50), ("ERROR", 40), ("WARN", 30), ("WARNING", 30),
   ("INFO", 20), ("DEBUG", 10), ("NOTSET", 0)]

def printed : List (Int × String) :=
  [(50, "CRITICAL"), (40, "ERROR"), (30, "WARNING"), (20, "INFO"), (10, "DEBUG"), (0, "NOTSET")]

def ofSpelling? (name : String) : Option Int :=
  (spellings.find? (·.1 == name)).map (·.2)

/-- Reads a configured level: integers and booleans stand for themselves, and a text must
be an accepted spelling once trimmed and upper-cased. -/
def parse : Value → Except Failure Value
  | .int n => .ok (.int n)
  | .bool b => .ok (.bool b)
  | .str s =>
    match ofSpelling? (upper (trim s)) with
    | some n => .ok (.int n)
    | none => .error (.badArgument ("unsupported logging level " ++ (Value.str s).literal))
  | v => .error (.missingAttribute ("'" ++ v.typeName ++ "' object has no attribute 'strip'"))

def number : Value → Int
  | .int n => n
  | .bool b => if b then 1 else 0
  | _ => 0

/-- The printed name of a record's level: a standard level by its name, an accepted
spelling by its number, and anything else as `Level ` followed by its display. -/
def label (v : Value) : Value :=
  let standard : Option (Int × String) := match v.number? with
    | some (.finite m e) =>
      printed.find? fun entry => Extended.compare (.finite m e) (.ofInt entry.1) == Ordering.eq
    | _ => none
  match standard, v with
  | some (_, name), _ => .str name
  | none, .str s =>
    match ofSpelling? s with
    | some n => .int n
    | none => .str ("Level " ++ s)
  | none, _ => .str ("Level " ++ v.display)

example : label (.int 20) = .str "INFO" := rfl
example : label (.int 25) = .str "Level 25" := rfl

end RestConfig.Level
