import RestConfig.Number.Binary64

/-!
# Property values

A property value is what a caller hands to the library before it is typed: text,
integers, binary64 numbers, booleans, nothing, lists and tuples of values, mappings,
secrets and the marker of a required key. Documents read from YAML and TOML files add
byte strings, sets, dates, times of day and date-times.

Values compare the way the configuration rules need: numbers of any kind by their exact
value (not-a-number equals nothing), sequences item by item, and a date-time with an
offset by the instant it names.
-/

namespace RestConfig

/-- A calendar date. -/
structure Date where
  year : Nat
  month : Nat
  day : Nat
  deriving DecidableEq, Inhabited

/-- A time of day, to the microsecond, with an optional offset from UTC in minutes. -/
structure TimeOfDay where
  hour : Nat
  minute : Nat
  second : Nat
  micro : Nat
  offset : Option Int
  deriving DecidableEq, Inhabited

/-- A property value, before typing. -/
inductive Value where
  | none
  | bool (b : Bool)
  | int (i : Int)
  | float (x : Binary64)
  | str (s : String)
  | password (secret : String)
  | required
  | list (items : List Value)
  | tuple (items : List Value)
  | map (entries : List (Value × Value))
  | bytes (data : List UInt8)
  | set (items : List Value)
  | date (d : Date)
  | time (t : TimeOfDay)
  | datetime (d : Date) (t : TimeOfDay)
  deriving Inhabited

def Date.epochDays (d : Date) : Int :=
  let y : Int := if d.month ≤ 2 then d.year - 1 else d.year
  let era := y / 400
  let yoe := y - era * 400
  let m : Int := d.month
  let doy := (153 * (if m > 2 then m - 3 else m + 9) + 2) / 5 + d.day - 1
  let doe := yoe * 365 + yoe / 4 - yoe / 100 + doy
  era * 146097 + doe - 719468

namespace Value

def typeName : Value → String
  | .none => "NoneType"
  | .bool _ => "bool"
  | .int _ => "int"
  | .float _ => "float"
  | .str _ => "str"
  | .password _ => "Password"
  | .required => "_Required"
  | .list _ => "list"
  | .tuple _ => "tuple"
  | .map _ => "dict"
  | .bytes _ => "bytes"
  | .set _ => "set"
  | .date _ => "date"
  | .time _ => "time"
  | .datetime _ _ => "datetime"

/-- The exact number a boolean, integer or binary64 value stands for; `none` for
not-a-number and for every other value. -/
def number? : Value → Option Extended
  | .bool b => some (.ofInt (if b then 1 else 0))
  | .int i => some (.ofInt i)
  | .float x => if x.isNaN then Option.none else some x.toExtended
  | _ => Option.none

def isNumeric : Value → Bool
  | .bool _ | .int _ | .float _ => true
  | _ => false

def instant (d : Date) (t : TimeOfDay) : Int :=
  ((d.epochDays * 86400 + t.hour * 3600 + t.minute * 60 + t.second -
      (t.offset.getD 0) * 60) * 1000000) + t.micro

mutual
/-- Equality of values: numbers by exact value, sequences item by item, mappings as
sets of entries, date-times with offsets by instant. -/
def same : Value → Value → Bool
  | .none, .none => true
  | .str a, .str b => a == b
  | .password a, .password b => a == b
  | .required, .required => true
  | .list a, .list b => sameItems a b
  | .tuple a, .tuple b => sameItems a b
  | .map a, .map b => sameEntries a b && sameEntries b a
  | .bytes a, .bytes b => a == b
  | .set a, .set b => sameMembers a b && sameMembers b a
  | .date a, .date b => a == b
  | .time a, .time b => a == b
  | .datetime d t, .datetime e u =>
    match t.offset, u.offset with
    | some _, some _ => instant d t == instant e u
    | Option.none, Option.none => d == e && t == u
    | _, _ => false
  | a, b =>
    match a.number?, b.number? with
    | some x, some y => x.compare y == .eq
    | _, _ => false
termination_by a b => sizeOf a + sizeOf b

def sameItems : List Value → List Value → Bool
  | [], [] => true
  | a :: as, b :: bs => same a b && sameItems as bs
  | _, _ => false
termination_by a b => sizeOf a + sizeOf b

def sameEntries : List (Value × Value) → List (Value × Value) → Bool
  | [], _ => true
  | (k, v) :: rest, other => hasEntry k v other && sameEntries rest other
termination_by a b => sizeOf a + sizeOf b

def hasEntry (k v : Value) : List (Value × Value) → Bool
  | [] => false
  | (k', v') :: rest => (same k k' && same v v') || hasEntry k v rest
termination_by rest => sizeOf k + sizeOf v + sizeOf rest

def sameMembers : List Value → List Value → Bool
  | [], _ => true
  | a :: rest, other => hasMember a other && sameMembers rest other
termination_by a b => sizeOf a + sizeOf b

def hasMember (a : Value) : List Value → Bool
  | [] => false
  | b :: rest => same a b || hasMember a rest
termination_by rest => sizeOf a + sizeOf rest
end

/-- Whether a value counts as true in a condition: nothing, `false`, zero and empty texts
and collections count as false, every other value as true. -/
def truthy : Value → Bool
  | .none => false
  | .bool b => b
  | .int i => i != 0
  | .float x => !x.isZero
  | .str s => !s.isEmpty
  | .list items | .tuple items | .set items => !items.isEmpty
  | .map entries => !entries.isEmpty
  | .bytes data => !data.isEmpty
  | _ => true

end Value

end RestConfig
