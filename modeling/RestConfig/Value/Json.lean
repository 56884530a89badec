import RestConfig.Value.Written

/-!
# JSON text of values

Values are written as JSON with mapping keys in sorted order, characters outside ASCII
written as themselves, and numbers in their shortest round-trip form (not-a-number and
the infinities as `NaN`, `Infinity` and `-Infinity`). In a string, the quote, the
backslash and the control characters are escaped, the common ones by letter. The
compact form has no blanks; the indented form puts every item on its own line, two
spaces deeper per level, with `": "` after keys. Writing refuses a value holding an integer
too long to write in decimal (see `RestConfig.Value.Written`).
-/

namespace RestConfig.Json

open RestConfig.Text

def escapeChar (c : Char) : List Char :=
  if c = '"' then ['\\', '"']
  else if c = '\\' then ['\\', '\\']
  else if c = '\n' then ['\\', 'n']
  else if c = '\r' then ['\\', 'r']
  else if c = '\t' then ['\\', 't']
  else if c = '\x08' then ['\\', 'b']
  else if c = '\x0c' then ['\\', 'f']
  else if c.toNat < 0x20 then '\\' :: 'u' :: hexDigits c.toNat 4
  else [c]

def string (s : String) : String := String.ofList ('"' :: s.toList.flatMap escapeChar ++ ['"'])

def number (x : Binary64) : String :=
  if x.isNaN then "NaN"
  else if x.isInfinite then (if x.negative then "-Infinity" else "Infinity")
  else x.text

def sortRendered (entries : List (String × String)) : List String :=
  (entries.mergeSort fun a b => decide (a.1 ≤ b.1)).map (·.2)

def pad (indent : Option Nat) (level : Nat) : String :=
  match indent with
  | some n => String.ofList (List.replicate (n * level) ' ')
  | none => ""

def enclose (indent : Option Nat) (level : Nat) (openB closeB : String) (items : List String) :
    String :=
  if items.isEmpty then openB ++ closeB
  else match indent with
    | none => openB ++ ",".intercalate items ++ closeB
    | some _ =>
      openB ++ "\n" ++ (",\n".intercalate (items.map (pad indent (level + 1) ++ ·))) ++ "\n" ++
        pad indent level ++ closeB

mutual
def render (indent : Option Nat) (level : Nat) : Value → String
  | .none => "null"
  | .bool b => if b then "true" else "false"
  | .int i => toString i
  | .float x => number x
  | .str s => string s
  | .list items => enclose indent level "[" "]" (renderItems indent level items)
  | .tuple items => enclose indent level "[" "]" (renderItems indent level items)
  | .map entries => enclose indent level "\x7b" "\x7d" (sortRendered (renderEntries indent level entries))
  | v => string v.display

def renderItems (indent : Option Nat) (level : Nat) : List Value → List String
  | [] => []
  | v :: rest => render indent (level + 1) v :: renderItems indent level rest

def renderEntries (indent : Option Nat) (level : Nat) : List (Value × Value) → List (String × String)
  | [] => []
  | (k, v) :: rest =>
    (k.display, string k.display ++ (if indent.isSome then ": " else ":") ++ render indent (level + 1) v) ::
      renderEntries indent level rest
end

def compact (v : Value) : String := render none 0 v

def indented (v : Value) : String := render (some 2) 0 v

/-- Writes a value as JSON text at an indentation, refusing one that holds an integer too long
to write. -/
def write (indent : Option Nat) (v : Value) : Except Failure String :=
  if v.citable then .ok (render indent 0 v) else .error writeLimitFailure

end RestConfig.Json
