import RestConfig.Value.Basic
import RestConfig.Number.Text
import RestConfig.Text.Quoted

/-!
# The text of a value

Every value has two texts. Its *display* is what a report prints: text as itself, a
secret as `[hidden]`. Its *literal* is how a message cites it: text quoted, sequences
and mappings with the literals of their members, `None`, `True` and `False` for nothing
and the booleans, and numbers the same in both.
-/

namespace RestConfig

open RestConfig.Text

def hiddenText : String := "[hidden]"

def twoDigits (n : Nat) : String := String.ofList (padDigits n 2)

def Date.text (d : Date) : String :=
  String.ofList (padDigits d.year 4) ++ "-" ++ twoDigits d.month ++ "-" ++ twoDigits d.day

def offsetText (minutes : Int) : String :=
  (if minutes < 0 then "-" else "+") ++ twoDigits (minutes.natAbs / 60) ++ ":" ++
    twoDigits (minutes.natAbs % 60)

/-- A time of day: hours, minutes and seconds, the microseconds when there are any, and
the offset when there is one. -/
def TimeOfDay.text (t : TimeOfDay) : String :=
  twoDigits t.hour ++ ":" ++ twoDigits t.minute ++ ":" ++ twoDigits t.second ++
    (if t.micro = 0 then "" else "." ++ String.ofList (padDigits t.micro 6)) ++
    (match t.offset with
     | some m => offsetText m
     | none => "")

/-- The literal of a byte string: quoted like text, with every byte outside the printable
ASCII range written in hexadecimal. -/
def bytesLiteral (data : List UInt8) : String :=
  let cs := data.map fun b => Char.ofNat b.toNat
  let q := quoteFor cs
  let esc (c : Char) : List Char :=
    if c = q ∨ c = '\\' then ['\\', c]
    else if c = '\t' then ['\\', 't']
    else if c = '\n' then ['\\', 'n']
    else if c = '\r' then ['\\', 'r']
    else if c.toNat < 0x20 ∨ c.toNat ≥ 0x7F then '\\' :: 'x' :: hexDigits c.toNat 2
    else [c]
  String.ofList ('b' :: q :: cs.flatMap esc ++ [q])

def zoneLiteral (minutes : Int) : String :=
  if minutes = 0 then "datetime.timezone.utc"
  else
    let seconds := minutes * 60
    let days := seconds / 86400
    let rest := seconds % 86400
    let delta :=
      if days = 0 then "seconds=" ++ toString rest
      else "days=" ++ toString days ++ ", seconds=" ++ toString rest
    "datetime.timezone(datetime.timedelta(" ++ delta ++ "))"

/-- The fields of a time of day as a literal lists them: trailing zero fields dropped,
hours and minutes always kept. -/
def timeFields (t : TimeOfDay) : List String :=
  let base := [toString t.hour, toString t.minute]
  let more :=
    if t.micro ≠ 0 then [toString t.second, toString t.micro]
    else if t.second ≠ 0 then [toString t.second]
    else []
  let zone := match t.offset with
    | some m => ["tzinfo=" ++ zoneLiteral m]
    | none => []
  base ++ more ++ zone

namespace Value

mutual
def literal : Value → String
  | .none => "None"
  | .bool b => if b then "True" else "False"
  | .int i => toString i
  | .float x => x.text
  | .str s => quote s
  | .password _ => "Password(" ++ hiddenText ++ ")"
  | .required => "REQUIRED"
  | .list items => "[" ++ literalItems items ++ "]"
  | .tuple [x] => "(" ++ literal x ++ ",)"
  | .tuple items => "(" ++ literalItems items ++ ")"
  | .map entries => "\x7b" ++ literalEntries entries ++ "\x7d"
  | .bytes data => bytesLiteral data
  | .set [] => "set()"
  | .set items => "\x7b" ++ literalItems items ++ "\x7d"
  | .date d =>
    "datetime.date(" ++ toString d.year ++ ", " ++ toString d.month ++ ", " ++ toString d.day ++ ")"
  | .time t => "datetime.time(" ++ ", ".intercalate (timeFields t) ++ ")"
  | .datetime d t =>
    "datetime.datetime(" ++
      ", ".intercalate ([toString d.year, toString d.month, toString d.day] ++ timeFields t) ++ ")"

def literalItems : List Value → String
  | [] => ""
  | [x] => literal x
  | x :: xs => literal x ++ ", " ++ literalItems xs

def literalEntries : List (Value × Value) → String
  | [] => ""
  | [(k, v)] => literal k ++ ": " ++ literal v
  | (k, v) :: rest => literal k ++ ": " ++ literal v ++ ", " ++ literalEntries rest
end

/-- The display of a value: text as itself, a secret hidden, dates in calendar form, and
every other value as its literal. -/
def display : Value → String
  | .str s => s
  | .password _ => hiddenText
  | .date d => d.text
  | .time t => t.text
  | .datetime d t => d.text ++ " " ++ t.text
  | v => v.literal

end Value

end RestConfig
