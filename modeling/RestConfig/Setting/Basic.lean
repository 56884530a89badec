import RestConfig.Value.Written

/-!
# Kinds, importance and settings

A configuration key declares the kind of its setting: boolean, string, int (32 bits),
long (64 bits), double, list of strings, or password. A *setting* is a value read as its
kind: a flag, a whole number, a finite binary64 number, a text, a list of texts, or a
secret. Rendering writes a value back the way a properties file would hold it.
-/

namespace RestConfig

/-- The declared kind of a configuration key. -/
inductive Kind where
  | boolean
  | string
  | int
  | long
  | double
  | list
  | password
  deriving DecidableEq, Inhabited

namespace Kind

def name : Kind → String
  | .boolean => "boolean"
  | .string => "string"
  | .int => "int"
  | .long => "long"
  | .double => "double"
  | .list => "list"
  | .password => "password"

def all : List Kind := [.boolean, .string, .int, .long, .double, .list, .password]

def ofName? (s : String) : Option Kind := all.find? (·.name == s)

/-- The inclusive bounds of the whole-number kinds: `[-2 ^ 31, 2 ^ 31)` for an int and
`[-2 ^ 63, 2 ^ 63)` for a long. -/
def bounds : Kind → Int × Int
  | .int => (-2147483648, 2147483647)
  | _ => (-9223372036854775808, 9223372036854775807)

end Kind

/-- How prominently a key is documented. -/
inductive Importance where
  | high
  | medium
  | low
  deriving DecidableEq, Inhabited

namespace Importance

def name : Importance → String
  | .high => "high"
  | .medium => "medium"
  | .low => "low"

def rank : Importance → Nat
  | .high => 0
  | .medium => 1
  | .low => 2

def ofName? (s : String) : Option Importance :=
  [Importance.high, .medium, .low].find? (·.name == s)

end Importance

/-- A value read as a kind. -/
inductive Setting where
  | flag (b : Bool)
  | whole (i : Int)
  | real (x : Binary64)
  | text (s : String)
  | items (xs : List String)
  | secret (s : String)
  deriving Inhabited

def Setting.toValue : Setting → Value
  | .flag b => .bool b
  | .whole i => .int i
  | .real x => .float x
  | .text s => .str s
  | .items xs => .tuple (xs.map .str)
  | .secret s => .password s

/-- The text a properties file holds for a value: booleans in lower case, the items of a
tuple joined by commas, nothing for the required marker, and the display otherwise. -/
def Value.propertyText : Value → String
  | .bool b => if b then "true" else "false"
  | .tuple items => ",".intercalate (items.map Value.display)
  | .required => ""
  | v => v.display

/-- Writes a value as a properties file holds it; every text it writes, the items of a tuple
one by one, fails on an integer too long to write. -/
def Value.render (v : Value) : Except Failure String :=
  if v.citable then .ok v.propertyText else .error writeLimitFailure

def Setting.render (s : Setting) : Except Failure String := s.toValue.render

end RestConfig
