import RestConfig.Text.Blank

/-!
# Plain-text screens and tables

A screen is written line by line: a heading, a `key: value` pair, a section (a blank line
and a heading) and a failed check (`  FAIL  label`).

A table has headers, rows of cells and, optionally, a title and a largest cell width.
A table without rows writes nothing. Otherwise it writes, after the title's section if
there is a title, the header line, a line of dashes and one line per row. A cell longer
than the largest width is cut to that width less three characters (at least none) and
followed by `...`. Column `i` is as wide as its full header or its widest cut cell; a line
is two blanks, then its first cells (as many as there are headers, missing ones empty),
each padded to its column's width and joined by two blanks, with trailing blanks removed.
The dash line gives each column its width in dashes.
-/

namespace RestConfig.Console

open RestConfig.Text

/-- A table to be written. -/
structure Table where
  headers : List String
  rows : List (List String)
  title : Option String
  maxWidth : Option Int
  deriving Inhabited

namespace Table

def cell (t : Table) (s : String) : String :=
  match t.maxWidth with
  | some w =>
    if (s.length : Int) > w then String.ofList (s.toList.take (w - 3).toNat) ++ "..." else s
  | none => s

def widths (t : Table) : List Nat :=
  t.headers.zipIdx.map fun (h, i) =>
    t.rows.foldl (fun w row =>
      match row[i]? with
      | some c => max w (t.cell c).length
      | none => w) h.length

def padRight (s : String) (w : Nat) : String :=
  s ++ String.ofList (List.replicate (w - s.length) ' ')

def line (t : Table) (cells : List String) : String :=
  let parts := t.widths.zipIdx.map fun (w, i) =>
    padRight (match cells[i]? with
      | some c => t.cell c
      | none => "") w
  "  " ++ String.ofList (trimBlanksEnd ("  ".intercalate parts).toList)

def rule (t : Table) : String :=
  "  " ++ "  ".intercalate (t.widths.map fun w => String.ofList (List.replicate w '-'))

end Table

/-- One thing written to a screen. -/
inductive Piece where
  | heading (text : String)
  | pair (key value : String)
  | section (title : String)
  | failure (label : String)
  | table (t : Table)
  deriving Inhabited

def Piece.lines : Piece → List String
  | .heading text => [text]
  | .pair key value => [key ++ ": " ++ value]
  | .section title => ["", title]
  | .failure label => ["  FAIL  " ++ label]
  | .table t =>
    if t.rows.isEmpty then []
    else
      let titled := match t.title with
        | some title => if title.isEmpty then [] else ["", title]
        | none => []
      titled ++ [t.line t.headers, t.rule] ++ t.rows.map t.line

def Piece.text (p : Piece) : String := String.join (p.lines.map (· ++ "\n"))

end RestConfig.Console
