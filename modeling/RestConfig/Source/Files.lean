import RestConfig.Failure
import RestConfig.Text.Quoted
import RestConfig.Text.Utf8
import RestConfig.Text.Newline

/-!
# Files

Configuration files are read from a tree of named entries: texts, raw bytes and
directories, below the working directory. A path is written with `/` between its names;
empty names and `.` names are dropped, and `..` names the directory above. Exactly two
leading slashes are kept as they are written; more are one.

A path is followed from the working directory (or from the root, when it starts with a
slash) one name at a time. Every name on the way must be a directory: one that an entry
declares, or one that holds entries. A name longer than 255 bytes stops the walk where it
is met, and so does a path of 4096 bytes or more before any name is met. A path leads to
a file only when its last name holds a text or bytes. Of what lies outside the tree
nothing is known but that the directory above a directory is one.

A leading `~` part names a home directory: `~` alone the one given, `~name` the home of
the account `name`. A home that cannot be determined is a failure.

Bytes are decoded as UTF-8, either all at once or as a stream in blocks. Reading a file as
text turns CRLF and CR into LF.
-/

namespace RestConfig.Files

open RestConfig.Utf8

/-- What an entry of a file tree holds. -/
inductive Entry where
  | text (s : String)
  | bytes (data : List UInt8)
  | directory

abbrev Tree := List (String × Entry)

def parts (path : String) : List String :=
  (path.splitOn "/").filter fun p => p ≠ "" ∧ p ≠ "."

/-- The root a path starts at, as written: none, `/`, or `//` for exactly two leading
slashes. -/
def rootOf (path : String) : String :=
  match (path.toList.takeWhile (· = '/')).length with
  | 0 => ""
  | 2 => "//"
  | _ => "/"

def normalize (path : String) : String :=
  let body := "/".intercalate (parts path)
  let root := rootOf path
  if root.isEmpty ∧ body.isEmpty then "." else root ++ body

/-- Where a path leads: from the root or from the working directory, and the names below
that, with every `..` that can be taken back against the name before it taken back. -/
structure Location where
  absolute : Bool
  names : List String
  deriving DecidableEq

/-- The location below `here` reached by one more name. Above the root is the root; above
the working directory is kept as a leading `..`. -/
def Location.step (here : Location) (name : String) : Location :=
  if name = ".." then
    match here.names.reverse with
    | last :: before =>
      if last = ".." then { here with names := here.names ++ [name] }
      else { here with names := before.reverse }
    | [] => if here.absolute then here else { here with names := [name] }
  else { here with names := here.names ++ [name] }

def Location.ofPath (path : String) : Location :=
  (parts path).foldl Location.step ⟨path.startsWith "/", []⟩

def Tree.entryAt (t : Tree) (loc : Location) : Option Entry :=
  (t.find? fun (p, _) => Location.ofPath p == loc).map (·.2)

/-- Whether a location is a directory: the root and the working directory are, as are a
declared directory and every location that holds an entry. -/
def Tree.isDirectory (t : Tree) (loc : Location) : Bool :=
  loc.names.isEmpty ||
    t.any fun (p, e) =>
      let l := Location.ofPath p
      l.absolute == loc.absolute &&
        ((loc.names.isPrefixOf l.names && l.names.length > loc.names.length) ||
          (l.names == loc.names && match e with | .directory => true | _ => false))

/-- What following a path finds. -/
inductive Lookup where
  | file (e : Entry)
  | missing
  | tooLong
  deriving Inhabited

def nameMax : Nat := 255

def pathMax : Nat := 4096

def Tree.follow (t : Tree) (here : Location) : List String → Lookup
  | [] =>
    match t.entryAt here with
    | some .directory | none => .missing
    | some e => .file e
  | name :: rest =>
    if name.utf8ByteSize > nameMax then .tooLong
    else
      let next := here.step name
      if rest.isEmpty || name = ".." || t.isDirectory next then t.follow next rest
      else .missing

def Tree.lookup (t : Tree) (path : String) : Lookup :=
  if path.contains (Char.ofNat 0) then .missing
  else if path.utf8ByteSize ≥ pathMax then .tooLong
  else t.follow ⟨path.startsWith "/", []⟩ (parts path)

def accounts : List (String × String) := [("root", "/root")]

def unknownHomeMessage : String := "Could not determine home directory."

/-- A path in normal form with a leading `~` part read as a home directory: `~` alone is
`home`, `~name` the home of the account `name`. The home is written without trailing
slashes (the root when that leaves nothing). A home that is not known, or that itself
starts with `~`, is refused. -/
def expandHome (home : String) (path : String) : Except String String :=
  let p := normalize path
  match rootOf p, parts p with
  | "", first :: rest =>
    if first.startsWith "~" then
      let dir := if first = "~" then some home else accounts.lookup (String.ofList (first.toList.drop 1))
      match dir with
      | some d =>
        let d := String.ofList ((d.toList.reverse.dropWhile (· = '/')).reverse)
        let d := if d.isEmpty then "/" else d
        if d.startsWith "~" then .error unknownHomeMessage
        else if rest.isEmpty then .ok (normalize d)
        else .ok (normalize ((if d = "/" then "" else d) ++ "/" ++ "/".intercalate rest))
      | none => .error unknownHomeMessage
    else .ok p
  | _, _ => .ok p

/-- The suffix of a path's last part: from its last dot, unless that dot begins or ends it. -/
def suffix (path : String) : String :=
  let name := ((parts path).getLast?).getD ""
  let cs := name.toList
  match (List.range cs.length).reverse.find? (fun i => cs[i]? = some '.') with
  | some i => if 0 < i ∧ i < cs.length - 1 then String.ofList (cs.drop i) else ""
  | none => ""

def Entry.decoded : Entry → Except DecodeError String
  | .text s => .ok s
  | .bytes data => decode data
  | .directory => .ok ""

/-- The text of a file entry read as a stream in blocks, or the decoding failure (whose
position counts from the block it is found in). -/
def Entry.streamed : Entry → Except DecodeError String
  | .text s => .ok s
  | .bytes data => decodeStream data
  | .directory => .ok ""

end RestConfig.Files
