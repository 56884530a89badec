import RestConfig.Value.Written
import RestConfig.Text.Word
import RestConfig.Text.Blank
import RestConfig.Text.Case

/-!
# Redaction of secrets in log events

Log events carry JSON-like values: nothing, booleans, integers, finite numbers, texts,
lists and mappings with text keys. Any other value is first *normalized*: a non-finite
number and every value without a JSON form become their display, tuples become lists,
and mapping keys become their displays. Normalizing fails when a key, or a value without a
JSON form, holds an integer too long to write (see `RestConfig.Value.Written`).

Redaction then hides secrets. Under a key whose lower-case form contains `password`,
`secret`, `token`, `jaas.config` or `basic.auth.user.info`, the whole value becomes
`***REDACTED***`. Inside texts, every *assignment* is masked: a run of word characters
and dots that starts at a word boundary and ends with one of the words `password`,
`secret`, `token` or `user.info` (in any case), then optional blanks, a `:` or `=`,
optional blanks and a value of characters other than blanks, `,` and `;`. The run and
the sign are kept, the blanks around the sign are dropped, and the value becomes
`***REDACTED***`. Assignments are found from left to right without overlapping.
-/

namespace RestConfig.Redact

open RestConfig.Text

def hidden : String := "***REDACTED***"

def keyTerms : List String := ["password", "secret", "token", "jaas.config", "basic.auth.user.info"]

def containsText (s t : String) : Bool :=
  let cs := s.toList
  let ts := t.toList
  (List.range (cs.length + 1)).any fun i => ts.isPrefixOf (cs.drop i)

def secretKey (key : String) : Bool :=
  let lowered := lower key
  keyTerms.any (containsText lowered ·)

mutual
def normalize : Value → Value
  | .none => .none
  | .bool b => .bool b
  | .int i => .int i
  | .str s => .str s
  | .float x => if x.isFinite then .float x else .str x.text
  | .map entries => .map (normalizeEntries entries)
  | .list items => .list (normalizeItems items)
  | .tuple items => .list (normalizeItems items)
  | v => .str v.display

def normalizeItems : List Value → List Value
  | [] => []
  | v :: rest => normalize v :: normalizeItems rest

/-- The JSON-like form of a mapping: keys as their displays, a later entry with the same
display replacing an earlier one in place. -/
def normalizeEntries : List (Value × Value) → List (Value × Value)
  | [] => []
  | (k, v) :: rest =>
    let key := Value.str k.display
    let later := normalizeEntries rest
    match later.find? (fun e => e.1.display == k.display) with
    | some e => (key, e.2) :: later.filter (fun e => e.1.display != k.display)
    | none => (key, normalize v) :: later
end

mutual
/-- Whether a value can be normalized: every key and every value without a JSON form in it
can be written as text. -/
def normalizable : Value → Bool
  | .none | .bool _ | .int _ | .str _ | .float _ => true
  | .map entries => normalizableEntries entries
  | .list items | .tuple items => normalizableItems items
  | v => v.citable

def normalizableItems : List Value → Bool
  | [] => true
  | v :: rest => normalizable v && normalizableItems rest

def normalizableEntries : List (Value × Value) → Bool
  | [] => true
  | (k, v) :: rest => k.citable && normalizable v && normalizableEntries rest
end

def normalized (v : Value) : Except Failure Value :=
  if normalizable v then .ok (normalize v) else .error writeLimitFailure

def keywords : List (List Char) :=
  ["password".toList, "secret".toList, "token".toList, "user.info".toList]

/-- Whether a character matches a letter of a keyword regardless of case: its simple lower
case is the letter, or it is the dotless i, the dotted capital I, the long s or the Kelvin
sign standing for `i`, `i`, `s` and `k`. -/
def matchesLetter (letter c : Char) : Bool :=
  c.toLower == letter ||
    (letter = 'i' && (c.toNat = 0x130 || c.toNat = 0x131)) ||
    (letter = 's' && c.toNat = 0x17F) ||
    (letter = 'k' && c.toNat = 0x212A)

def endsWithKeyword (run : List Char) : Bool :=
  keywords.any fun kw =>
    kw.length ≤ run.length &&
      (List.zipWith matchesLetter kw (run.drop (run.length - kw.length))).all id

def runChar (c : Char) : Bool := isWordChar c || c = '.'

def valueChar (c : Char) : Bool := !isBlank c && c ≠ ',' && c ≠ ';'

def boundary (before : Option Char) (after : Char) : Bool :=
  (before.map isWordChar).getD false != isWordChar after

/-- An assignment at the front of the text: the run, the sign and the text after the
value. -/
def assignment (cs : List Char) : Option (List Char × Char × List Char) :=
  let run := cs.takeWhile runChar
  if !endsWithKeyword run then none
  else
    match (cs.drop run.length).dropWhile isBlank with
    | sign :: more =>
      if sign = ':' ∨ sign = '=' then
        let rest := more.dropWhile isBlank
        let value := rest.takeWhile valueChar
        if value.isEmpty then none else some (run, sign, rest.drop value.length)
      else none
    | [] => none

/-- Hides the values of the assignments of a text; `fuel` bounds the steps, one per character. -/
def hideValues : Nat → Option Char → List Char → List Char
  | 0, _, cs => cs
  | _, _, [] => []
  | fuel + 1, before, c :: cs =>
    let here := if boundary before c then assignment (c :: cs) else none
    match here with
    | some (run, sign, rest) =>
      -- the value's last character stands before the rest
      let consumed := (c :: cs).length - rest.length
      let last := ((c :: cs).take consumed).getLast?
      run ++ [sign] ++ hidden.toList ++ hideValues fuel last rest
    | none => c :: hideValues fuel (some c) cs

def redactText (s : String) : String :=
  String.ofList (hideValues s.length none s.toList)

mutual
def redact : Value → Value
  | .str s => .str (redactText s)
  | .list items => .list (redactItems items)
  | .map entries => .map (redactEntries entries)
  | v => v

def redactItems : List Value → List Value
  | [] => []
  | v :: rest => redact v :: redactItems rest

def redactEntries : List (Value × Value) → List (Value × Value)
  | [] => []
  | (k, v) :: rest =>
    (k, if secretKey k.display then .str hidden else redact v) :: redactEntries rest
end

end RestConfig.Redact
