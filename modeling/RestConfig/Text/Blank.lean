/-!
# Blank characters and the cuts made at them

A blank is a character of the Unicode white-space class, together with the four
information separators U+001C to U+001F, which Unicode 14 also counts as
separators. Trimming drops blanks at the ends of a text; splitting into words
cuts at every run of blanks; splitting into lines cuts at every line boundary.
-/

namespace RestConfig.Text

def isBlank (c : Char) : Bool :=
  let n := c.toNat
  (0x09 ≤ n && n ≤ 0x0D) || (0x1C ≤ n && n ≤ 0x20) || n == 0x85 || n == 0xA0 ||
    n == 0x1680 || (0x2000 ≤ n && n ≤ 0x200A) || n == 0x2028 || n == 0x2029 ||
    n == 0x202F || n == 0x205F || n == 0x3000

/-- A line boundary: the characters at which a text is split into lines
(carriage return followed by line feed counts once). -/
def isLineBreak (c : Char) : Bool :=
  let n := c.toNat
  (0x0A ≤ n && n ≤ 0x0D) || (0x1C ≤ n && n ≤ 0x1E) || n == 0x85 || n == 0x2028 ||
    n == 0x2029

def dropBlanks (cs : List Char) : List Char := cs.dropWhile isBlank

def trimBlanks (cs : List Char) : List Char :=
  (dropBlanks (dropBlanks cs).reverse).reverse

def trimBlanksEnd (cs : List Char) : List Char := (dropBlanks cs.reverse).reverse

def trim (s : String) : String := String.ofList (trimBlanks s.toList)

def trimEnd (s : String) : String := String.ofList (trimBlanksEnd s.toList)

def trimStart (s : String) : String := String.ofList (dropBlanks s.toList)

def dropAny (set : List Char) (cs : List Char) : List Char := cs.dropWhile (set.contains ·)

def dropAnyEnd (set : List Char) (cs : List Char) : List Char :=
  (dropAny set cs.reverse).reverse

/-- Cuts a character list at runs of blanks; no word is empty. The second argument
holds the word read so far, reversed. -/
def wordsFrom : List Char → List Char → List String
  | [], acc => if acc.isEmpty then [] else [String.ofList acc.reverse]
  | c :: cs, acc =>
    if isBlank c then
      if acc.isEmpty then wordsFrom cs [] else String.ofList acc.reverse :: wordsFrom cs []
    else wordsFrom cs (c :: acc)

def words (s : String) : List String := wordsFrom s.toList []

/-- Cuts a character list into lines. A boundary ends the line before it; a final
boundary opens no empty line. The second argument holds the current line, reversed. -/
def linesFrom : List Char → List Char → List String
  | [], acc => if acc.isEmpty then [] else [String.ofList acc.reverse]
  | '\r' :: '\n' :: cs, acc => String.ofList acc.reverse :: linesFrom cs []
  | c :: cs, acc =>
    if isLineBreak c then String.ofList acc.reverse :: linesFrom cs []
    else linesFrom cs (c :: acc)

def lines (s : String) : List String := linesFrom s.toList []

example : trim " 　 a b\x85 " = "a b" := by decide
example : words "  a \t b  " = ["a", "b"] := by decide
example : lines "a\r\nb c\n" = ["a", "b", "c"] := by decide

end RestConfig.Text
