import RestConfig.Toml.Scalar

/-!
# Reading a TOML document

A document is a sequence of statements, one per line: a key/value pair, a table header
`[path]`, an array-of-tables header `[[path]]`, or nothing; each may be followed by a
comment. Pairs belong to the table of the last header. Keys are bare or quoted, and dotted
keys address nested tables. Values are strings, numbers, booleans, dates and times,
arrays and inline tables; arrays may spread over lines and hold comments, inline tables
may not.

Reading stops at the first problem, reported where it was met. A table cannot be declared
twice, a value cannot be replaced, a table opened by dotted keys cannot be declared by a
header, and nothing can be added under an inline table or array.
-/

namespace RestConfig.Toml

open RestConfig.Text

def keyText (key : List String) : String :=
  match key with
  | [k] => "(" ++ quote k ++ ",)"
  | ks => "(" ++ ", ".intercalate (ks.map quote) ++ ")"

def keyPart (src : Source) (room pos : Nat) : Except Problem (Nat × String) := do
  match src[pos]? with
  | some c =>
    if isBareKeyChar c then do
      need room .call
      let e := skipWhile src isBareKeyChar pos
      pure (e, String.ofList (slice src pos e))
    else if c = '\'' then do
      need room .call
      let (e, cs) ← literalString src (room - 1) pos
      pure (e, String.ofList cs)
    else if c = '"' then do
      need room .call
      let (e, cs) ← oneLineString src (room - 1) pos
      pure (e, String.ofList cs)
    else failIn src room pos "Invalid initial character for a key part"
  | none => failIn src room pos "Invalid initial character for a key part"

def keyRest (src : Source) (room : Nat) : Nat → Nat → List String →
    Except Problem (Nat × List String)
  | 0, pos, parts => pure (pos, parts)
  | fuel + 1, pos, parts =>
    if src[pos]? == some '.' then do
      need room .call
      need room .call
      let (e, part) ← keyPart src (room - 1) (skipWhile src isBlank (pos + 1))
      need room .call
      keyRest src room fuel (skipWhile src isBlank e) (parts ++ [part])
    else pure (pos, parts)

def readKey (src : Source) (room pos : Nat) : Except Problem (Nat × List String) := do
  need room .call
  let (e, part) ← keyPart src (room - 1) pos
  need room .call
  keyRest src room src.size (skipWhile src isBlank e) [part]

def numberItem (text : List Char) (isFloat : Bool) : Except Problem Item :=
  if isFloat then
    match Reading.readFloat? (String.ofList text) with
    | some x => pure (.scalar (.float x))
    | none => pure (.scalar (.str (String.ofList text)))
  else do
    let n ← integerValue text
    pure (.scalar (.int n))

def specialFloat (text : String) : Item :=
  .scalar (.float ((Reading.readFloat? text).getD Binary64.nan))

/-- Calls a value that is made and set up by a call of its own, with a room: an empty
table, or the marks of one. -/
def makeFresh (room : Nat) : Except Problem Unit := do
  need room .valueCall
  need (room - 1) .call

/-- Makes a matched date, time or number with a room: one call, in which the value is made
by calling a value. -/
def makeMatched (room : Nat) : Except Problem Unit := do
  need room .call
  need (room - 1) .valueCall

/-- Reads a value that is neither a string, a boolean, an array nor an inline table, with
a room: it is looked for as a date, as a time and as a number, each look calling a
value. -/
def plainValue (src : Source) (room pos : Nat) : Except Problem (Nat × Item) := do
  need room .valueCall
  match matchDateTime src pos with
  | some (e, found) =>
    makeMatched room
    match found with
    | some v => pure (e, .scalar v)
    | none => failIn src room pos "Invalid date or datetime"
  | none =>
    need room .valueCall
    match matchTime src pos with
    | some (e, t) =>
      makeMatched room
      pure (e, .scalar (.time t))
    | none =>
      need room .valueCall
      match matchNumber src pos with
      | some (e, isFloat) =>
        makeMatched room
        let item ← numberItem (slice src pos e) isFloat
        pure (e, item)
      | none =>
        let three := String.ofList (slice src pos (pos + 3))
        let four := String.ofList (slice src pos (pos + 4))
        if three == "inf" || three == "nan" then pure (pos + 3, specialFloat three)
        else if four == "-inf" || four == "+inf" || four == "-nan" || four == "+nan" then
          pure (pos + 4, specialFloat four)
        else failIn src room pos "Invalid value"

mutual
def readValue : Nat → Source → Nat → Nat → Except Problem (Nat × Item)
  | 0, _, _, pos => fail pos "Invalid value"
  | fuel + 1, src, room, pos =>
    match src[pos]? with
    | some '"' => do
      need room .valueCall
      need room .call
      let (e, cs) ← if startsAt src pos "\"\"\"" then multilineString src (room - 1) pos false
        else oneLineString src (room - 1) pos
      pure (e, .scalar (.str (String.ofList cs)))
    | some '\'' => do
      need room .valueCall
      need room .call
      let (e, cs) ← if startsAt src pos "'''" then multilineString src (room - 1) pos true
        else literalString src (room - 1) pos
      pure (e, .scalar (.str (String.ofList cs)))
    | some 't' => do
      need room .valueCall
      if startsAt src pos "true" then pure (pos + 4, .scalar (.bool true)) else plainValue src room pos
    | some 'f' => do
      need room .valueCall
      if startsAt src pos "false" then pure (pos + 5, .scalar (.bool false)) else plainValue src room pos
    | some '[' => do
      need room .call
      let inner := room - 1
      need inner .call
      let start ← skipArrayGaps src (inner - 1) (pos + 1)
      need inner .valueCall
      if startsAt src start "]" then pure (start + 1, .array [])
      else arrayItems fuel src inner start []
    | some '{' => do
      need room .call
      let inner := room - 1
      makeFresh inner
      makeFresh inner
      need inner .call
      let start := skipWhile src isBlank (pos + 1)
      need inner .valueCall
      if startsAt src start "\x7d" then pure (start + 1, .table [])
      else inlineEntries fuel src inner start [] Marks.empty
    | _ => plainValue src room pos

/-- Reads the items of an array with the array's room, from a position where an item
starts. -/
def arrayItems : Nat → Source → Nat → Nat → List Item → Except Problem (Nat × Item)
  | 0, _, _, pos, _ => fail pos "Unclosed array"
  | fuel + 1, src, room, pos, items => do
    need room .call
    let (e, item) ← readValue fuel src (room - 1) pos
    let items := items ++ [item]
    need room .call
    let e ← skipArrayGaps src (room - 1) e
    match src[e]? with
    | some ']' => pure (e + 1, .array items)
    | some ',' => do
      need room .call
      let next ← skipArrayGaps src (room - 1) (e + 1)
      need room .valueCall
      if startsAt src next "]" then pure (next + 1, .array items)
      else arrayItems fuel src room next items
    | _ => failIn src room e "Unclosed array"

def keyValue : Nat → Source → Nat → Nat → Except Problem (Nat × List String × Item)
  | 0, _, _, pos => fail pos "Invalid value"
  | fuel + 1, src, room, pos => do
    need room .call
    let (e, key) ← readKey src (room - 1) pos
    if src[e]? != some '=' then failIn src room e "Expected '=' after a key in a key/value pair"
    need room .call
    need room .call
    let (e, v) ← readValue fuel src (room - 1) (skipWhile src isBlank (e + 1))
    pure (e, key, v)

/-- Reads the entries of an inline table with the table's room, from a position where a
key starts. -/
def inlineEntries : Nat → Source → Nat → Nat → Entries → Marks → Except Problem (Nat × Item)
  | 0, _, _, pos, _, _ => fail pos "Unclosed inline table"
  | fuel + 1, src, room, pos, entries, marks => do
    need room .call
    let (e, key, v) ← keyValue fuel src (room - 1) pos
    need room .call
    if marks.has key .frozen then failIn src room e ("Cannot mutate immutable namespace " ++ keyText key)
    need room .call
    let stem := key.getLast?.getD ""
    let entries ← updateNest false (problemIn src room e "Cannot overwrite a value") (fun nest =>
      if nest.any (·.1 == stem) then failIn src room e ("Duplicate inline table key " ++ quote stem)
      else pure (nest ++ [(stem, v)])) key.dropLast entries
    need room .call
    let e := skipWhile src isBlank e
    match src[e]? with
    | some '}' => pure (e + 1, .table entries)
    | some ',' => do
      if v.isContainer then need room .call
      let marks := if v.isContainer then marks.set key .frozen true else marks
      need room .call
      inlineEntries fuel src room (skipWhile src isBlank (e + 1)) entries marks
    | _ => failIn src room e "Unclosed inline table"
end

/-- What reading has built so far: the root table, its marks, and the tables opened by
dotted keys since the last header, which become explicit at the next header. -/
structure Reader where
  root : Entries
  marks : Marks
  pending : List (List String)
  deriving Inhabited

def Reader.settle (r : Reader) : Reader :=
  { r with marks := r.pending.foldl (fun m k => m.set k .explicit false) r.marks, pending := [] }

def pairStatement (src : Source) (room pos : Nat) (header : List String) (r : Reader) :
    Except Problem (Nat × Reader) := do
  need room .call
  let (e, key, v) ← keyValue (src.size + 1) src (room - 1) pos
  let parent := header ++ key.dropLast
  let stem := key.getLast?.getD ""
  let opened := (List.range (key.length - 1)).map fun i => header ++ key.take (i + 1)
  let pending ← opened.foldlM (fun pending k =>
    if r.marks.has k .explicit then failIn src room e ("Cannot redefine namespace " ++ keyText k)
    else pure (pending ++ [k])) r.pending
  if r.marks.has parent .frozen then
    failIn src room e ("Cannot mutate immutable namespace " ++ keyText parent)
  let root ← updateNest true (problemIn src room e "Cannot overwrite a value") (fun nest =>
    if nest.any (·.1 == stem) then failIn src room e "Cannot overwrite a value"
    else pure (nest ++ [(stem, v)])) parent r.root
  let marks := if v.isContainer then r.marks.set (header ++ key) .frozen true else r.marks
  pure (e, { root, marks, pending })

def tableHeader (src : Source) (room pos : Nat) (r : Reader) :
    Except Problem (Nat × List String × Reader) := do
  need room .call
  need room .call
  let (e, key) ← readKey src (room - 1) (skipWhile src isBlank (pos + 1))
  if r.marks.has key .explicit || r.marks.has key .frozen then
    failIn src room e ("Cannot declare " ++ keyText key ++ " twice")
  let marks := r.marks.set key .explicit false
  let root ← updateNest true (problemIn src room e "Cannot overwrite a value") pure key r.root
  if !startsAt src e "]" then failIn src room e "Expected ']' at the end of a table declaration"
  pure (e + 1, key, { r with root, marks })

def arrayHeader (src : Source) (room pos : Nat) (r : Reader) :
    Except Problem (Nat × List String × Reader) := do
  need room .call
  need room .call
  let (e, key) ← readKey src (room - 1) (skipWhile src isBlank (pos + 2))
  if r.marks.has key .frozen then
    failIn src room e ("Cannot mutate immutable namespace " ++ keyText key)
  let marks := (r.marks.clear key).set key .explicit false
  let root ← match appendTable key r.root with
    | .ok root => pure root
    | .error () => failIn src room e "Cannot overwrite a value"
  if !startsAt src e "]]" then failIn src room e "Expected ']]' at the end of an array declaration"
  pure (e + 2, key, { r with root, marks })

def statements (src : Source) (room : Nat) : Nat → Nat → List String → Reader →
    Except Problem Reader
  | 0, _, _, r => pure r
  | fuel + 1, pos, header, r => do
    need room .call
    let pos := skipWhile src isBlank pos
    match src[pos]? with
    | none => pure r
    | some '\n' => statements src room fuel (pos + 1) header r
    | some c => do
      let (pos, header, r) ←
        if isBareKeyChar c || c = '"' || c = '\'' then do
          need room .call
          let (e, r) ← pairStatement src (room - 1) pos header r
          need room .call
          pure (skipWhile src isBlank e, header, r)
        else if c = '[' then do
          let r := r.settle
          need room .call
          let (e, key, r) ← if src[pos + 1]? == some '[' then arrayHeader src (room - 1) pos r
            else tableHeader src (room - 1) pos r
          need room .call
          pure (skipWhile src isBlank e, key, r)
        else if c != '#' then failIn src room pos "Invalid statement"
        else pure (pos, header, r)
      need room .call
      let pos ← skipComment src (room - 1) pos
      match src[pos]? with
      | none => pure r
      | some '\n' => statements src room fuel (pos + 1) header r
      | some _ => failIn src room pos "Expected newline or end of document after a statement"

def joinCrLf : List Char → List Char
  | '\r' :: '\n' :: rest => '\n' :: joinCrLf rest
  | c :: rest => c :: joinCrLf rest
  | [] => []

/-- Why a document was refused: a broken rule, told with its place, an integer with too
many digits, or reading that ran out of room. -/
inductive Refusal where
  | invalid (message : String)
  | tooManyDigits (count : Nat)
  | tooDeep (site : Site)
  deriving Inhabited

/-- Reads a TOML document into the entries of its root table, with a room; the statements
are read one call down. -/
def parse (room : Nat) (text : String) : Except Refusal (List (Value × Value)) :=
  let src : Source := (joinCrLf text.toList).toArray
  let read := do
    need room .call
    statements src (room - 1) (src.size + 1) 0 [] ⟨[], Marks.empty, []⟩
  match read with
  | .ok r => .ok (entriesToValue r.root)
  | .error (.tooManyDigits n) => .error (.tooManyDigits n)
  | .error (.tooDeep site) => .error (.tooDeep site)
  | .error p => .error (.invalid (p.message src))

end RestConfig.Toml
