import RestConfig.Value.Text
import RestConfig.Number.Reading
import RestConfig.Depth

/-!
# Writing a value out

Writing a value as text, or citing it in a message, can fail in two ways. An integer of more
than 4300 digits is not written in decimal: the writer refuses it with a value error. And
citing takes room (see `RestConfig.Depth`): one unit while the citation lasts, and inside it
each item of a sequence, each key and then value of a mapping, is cited one unit deeper; a set
is cited through the list of its items, a secret and the required marker through a call of
their own, and a time of day with an offset through its zone, a zone other than UTC through its
offset. Writing a value as text takes its unit the same way, except that a text is its own text
and a date or time writes itself without citing anything. The first fault met, in the order the
text is written, is the one reported.
-/

namespace RestConfig

open RestConfig.Reading

def writeLimitFailure : Failure := .badArgument writeLimitMessage

namespace Value

mutual
/-- Whether a value can be written: every integer in it has at most as many digits as
integers are written with in decimal. -/
def citable : Value → Bool
  | .int i => (toString i.natAbs).length ≤ integerDigitLimit
  | .list items | .tuple items | .set items => citableItems items
  | .map entries => citableEntries entries
  | _ => true

def citableItems : List Value → Bool
  | [] => true
  | v :: rest => v.citable && citableItems rest

def citableEntries : List (Value × Value) → Bool
  | [] => true
  | (k, v) :: rest => k.citable && v.citable && citableEntries rest
end

def toText (v : Value) : Except Failure String :=
  if v.citable then .ok v.display else .error writeLimitFailure

/-- The fault met citing the zone of a time of day with a room: UTC cites nothing more, any
other zone cites its offset. -/
def zoneFault (room : Nat) : Option Int → Option Failure
  | .none => .none
  | some m =>
    match room with
    | 0 => some Site.representation.failure
    | 1 => if m = 0 then .none else some Site.representation.failure
    | _ + 2 => .none

mutual
def reprFault : Nat → Value → Option Failure
  | 0, _ => some Site.representation.failure
  | _ + 1, .int i =>
    if (toString i.natAbs).length ≤ integerDigitLimit then .none else some writeLimitFailure
  | r + 1, .list items | r + 1, .tuple items => reprFaultItems r items
  | r + 1, .map entries => reprFaultEntries r entries
  | 1, .set (_ :: _) => some Site.representation.failure
  | r + 2, .set items => reprFaultItems r items
  | 1, .password _ | 1, .required => some Site.call.failure
  | r + 1, .time t | r + 1, .datetime _ t => zoneFault r t.offset
  | _ + 1, _ => .none

def reprFaultItems : Nat → List Value → Option Failure
  | _, [] => .none
  | r, v :: rest => (reprFault r v).or (reprFaultItems r rest)

/-- The first fault met citing a mapping's entries, key before value, with a room each. -/
def reprFaultEntries : Nat → List (Value × Value) → Option Failure
  | _, [] => .none
  | r, (k, v) :: rest => ((reprFault r k).or (reprFault r v)).or (reprFaultEntries r rest)
end

def strFault (room : Nat) (v : Value) : Option Failure :=
  match v, room with
  | .str _, _ => .none
  | _, 0 => some Site.display.failure
  | .date _, _ | .time _, _ | .datetime _ _, _ => .none
  | v, r => v.reprFault r

def textWithin (room : Nat) (v : Value) : Except Failure String :=
  match v.strFault room with
  | some f => .error f
  | .none => .ok v.display

@[simp] theorem reprFault_zero (v : Value) : reprFault 0 v = some Site.representation.failure := by
  cases v <;> rfl

@[simp] theorem reprFault_str (r : Nat) (s : String) : reprFault (r + 1) (.str s) = .none := rfl

@[simp] theorem strFault_str (r : Nat) (s : String) : strFault r (.str s) = .none := rfl

@[simp] theorem textWithin_str (r : Nat) (s : String) : textWithin r (.str s) = .ok s := rfl

theorem toText_of_citable {v : Value} (h : v.citable = true) : v.toText = .ok v.display := by
  simp [toText, h]

theorem toText_of_not_citable {v : Value} (h : v.citable = false) :
    v.toText = .error writeLimitFailure := by
  simp [toText, h]

end Value

end RestConfig
