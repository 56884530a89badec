import RestConfig.Console.Grammar
import RestConfig.Text.Blank

/-!
# Usage lines and help pages

Text is laid out for a terminal two columns narrower than it is wide.

A usage line is `usage: `, the program's name, each option's part and then the parts
of the plain words. When it does not fit on one line it is broken between parts: if
`usage: ` and the name take at most three quarters of the width, later lines are
indented to just past the name, and the plain words start a line of their own;
otherwise the name stands alone and the parts follow on lines indented by the width
of `usage: ` (the options and the plain words on separate lines if they do not fit on
one).

A help page is the usage line, the description as written, and sections of entries,
each under its heading; a section without entries is left out. An entry's help starts
in one column for the whole page: two past its longest invocation (counting the indent
of a section's entries), but not past column 24 (nor past the width less 20, though
never before column 4). An invocation too long for that column stands on a line of its
own, and its help starts on the next line. Help text is filled greedily into lines
that end by the width (words are never broken), and the lines listed under an entry
are indented two further. Runs of blank lines are cut to one, and the page ends with
exactly one line feed.
-/

namespace RestConfig.Console

open RestConfig.Text

def spaces (n : Nat) : String := String.ofList (List.replicate n ' ')

def padTo (s : String) (w : Nat) : String := s ++ spaces (w - s.length)

def layoutWidth (columns : Nat) : Nat := columns - 2

def maxHelpColumn (width : Nat) : Nat := min 24 (max (width - 20) 4)

/-- Packs parts into lines: a part joins the current line unless that takes the line
past `width`, counting one blank before each part; `used` is what the current line
already takes and `restart` what a new line takes before its first part. -/
def pack (width restart : Nat) : List String → Nat → List String → List (List String)
  | [], _, line => if line.isEmpty then [] else [line]
  | p :: ps, used, line =>
    if used + 1 + p.length > width ∧ ¬line.isEmpty then
      line :: pack width restart ps (restart + p.length + 1) [p]
    else pack width restart ps (used + p.length + 1) (line ++ [p])

/-- The lines of a run of usage parts, each after `indent`; with `first`, the first line
follows the text `usage: ` instead of the indent. -/
def usageLines (width : Nat) (indent : String) (first : Bool) (parts : List String) :
    List String :=
  let start := if first then "usage: ".length - 1 else indent.length - 1
  let groups := pack width (indent.length - 1) parts start []
  groups.zipIdx.map fun (g, i) =>
    (if first ∧ i = 0 then "" else indent) ++ " ".intercalate g

/-- A usage line after `usage: `: the name, the options' parts and the plain words' parts,
broken into lines when they do not fit. -/
def usageText (width : Nat) (name : String) (optionParts wordParts : List String) : String :=
  let all := optionParts ++ wordParts
  let whole := " ".intercalate (name :: all)
  if all.isEmpty ∨ "usage: ".length + whole.length ≤ width then
    if all.isEmpty then name else whole
  else if 4 * ("usage: ".length + name.length) ≤ 3 * width then
    let indent := spaces ("usage: ".length + name.length + 1)
    "\n".intercalate <|
      if optionParts.isEmpty then usageLines width indent true (name :: wordParts)
      else usageLines width indent true (name :: optionParts) ++
        usageLines width indent false wordParts
  else
    let indent := spaces "usage: ".length
    let lines := usageLines width indent false all
    let lines :=
      if lines.length > 1 then
        usageLines width indent false optionParts ++ usageLines width indent false wordParts
      else lines
    "\n".intercalate (name :: lines)

/-- Fills words greedily into lines of at most `width` characters, with one blank between
words, after the words of the current line. -/
def fillFrom (width : Nat) : List String → String → List String
  | [], line => if line.isEmpty then [] else [line]
  | w :: ws, line =>
    if line.isEmpty then fillFrom width ws w
    else if line.length + 1 + w.length ≤ width then fillFrom width ws (line ++ " " ++ w)
    else line :: fillFrom width ws w

def fill (width : Nat) (text : String) : List String := fillFrom width (words text) ""

/-- An argument as a help page lists it: how it is written, its help (none when it has
none) and the lines listed under it, each a name and its help. -/
structure Entry where
  invocation : String
  help : Option String
  children : List (String × String)
  deriving Inhabited

/-- A titled group of entries. -/
structure Section where
  heading : String
  entries : List Entry
  deriving Inhabited

/-- The text of one entry at an indent, with help starting at column `column` and filled
to `helpWidth`. -/
def entryText (column helpWidth indent : Nat) (invocation : String) (help : Option String) :
    String :=
  let fieldWidth := column - indent - 2
  let help := help.filter (· ≠ "")
  let (head, helpIndent) :=
    match help with
    | none => (spaces indent ++ invocation ++ "\n", 0)
    | some _ =>
      if invocation.length ≤ fieldWidth then (spaces indent ++ padTo invocation fieldWidth ++ "  ", 0)
      else (spaces indent ++ invocation ++ "\n", column)
  let lines := match help with
    | some h => fill helpWidth h
    | none => []
  match lines with
  | first :: rest =>
    head ++ spaces helpIndent ++ first ++ "\n" ++ String.join (rest.map (spaces column ++ · ++ "\n"))
  | [] => if head.endsWith "\n" then head else head ++ "\n"

def collapseBreaks : List Char → List Char
  | '\n' :: '\n' :: '\n' :: rest => collapseBreaks ('\n' :: '\n' :: rest)
  | c :: rest => c :: collapseBreaks rest
  | [] => []
termination_by cs => cs.length

def page (width : Nat) (usage description : String) (sections : List Section) : String :=
  let entries := sections.flatMap (·.entries)
  let longest := entries.foldl (fun m e =>
    max m ((e.children.map (·.1.length)).foldl max e.invocation.length + 2)) 0
  let column := min (longest + 2) (maxHelpColumn width)
  let helpWidth := max (width - column) 11
  let entryBlock (e : Entry) : String :=
    entryText column helpWidth 2 e.invocation e.help ++
      String.join (e.children.map fun (n, h) => entryText column helpWidth 4 n (some h))
  let sectionText (s : Section) : String :=
    if s.entries.isEmpty then ""
    else "\n" ++ s.heading ++ ":\n" ++ String.join (s.entries.map entryBlock) ++ "\n"
  let raw := "usage: " ++ usage ++ "\n\n" ++ description ++ "\n\n" ++
    String.join (sections.map sectionText)
  let body := (collapseBreaks raw.toList).dropWhile (· = '\n')
  String.ofList ((body.reverse.dropWhile (· = '\n')).reverse) ++ "\n"

end RestConfig.Console
