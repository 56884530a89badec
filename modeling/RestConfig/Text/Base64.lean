import RestConfig.Text.Quoted

/-!
# Base64

Base64 text is decoded leniently: characters outside the alphabet are skipped, and a
padding `=` ends the data once the group it closes is complete (after two or three
characters of a group of four; a `=` earlier in a group is skipped). Data that stops in
the middle of a group is refused: a single character left over can stand for no bytes
at all, two or three lack their padding.

Only ASCII text can be base64 data; the first run of characters outside ASCII is named
when text is refused.
-/

namespace RestConfig.Base64

def sextet? (c : Char) : Option Nat :=
  if 'A' ≤ c ∧ c ≤ 'Z' then some (c.toNat - 'A'.toNat)
  else if 'a' ≤ c ∧ c ≤ 'z' then some (c.toNat - 'a'.toNat + 26)
  else if '0' ≤ c ∧ c ≤ '9' then some (c.toNat - '0'.toNat + 52)
  else if c = '+' then some 62
  else if c = '/' then some 63
  else none

/-- Why base64 data is refused. -/
inductive Problem where
  | incorrectPadding
  | leftOver (bytes : Nat)
  deriving Inhabited

def Problem.message : Problem → String
  | .incorrectPadding => "Incorrect padding"
  | .leftOver bytes =>
    "Invalid base64-encoded string: number of data characters (" ++
      toString (bytes / 3 * 4 + 1) ++ ") cannot be 1 more than a multiple of 4"

/-- The state of decoding: the position in the current group of four, the bits carried
into the next byte, the paddings seen since the last data character, and the bytes so far,
most recent first. -/
structure Decoder where
  position : Nat
  carry : Nat
  pads : Nat
  out : List UInt8

def Decoder.push (d : Decoder) (v : Nat) : Decoder :=
  match d.position with
  | 0 => { d with position := 1, carry := v, pads := 0 }
  | 1 => { position := 2, carry := v % 16, pads := 0,
           out := (d.carry * 4 + v / 16).toUInt8 :: d.out }
  | 2 => { position := 3, carry := v % 4, pads := 0,
           out := ((d.carry % 16) * 16 + v / 4).toUInt8 :: d.out }
  | _ => { position := 0, carry := 0, pads := 0,
           out := ((d.carry % 4) * 64 + v).toUInt8 :: d.out }

def decodeFrom : List Char → Decoder → Except Problem (List UInt8)
  | [], d =>
    if d.position = 0 then .ok d.out.reverse
    else if d.position = 1 then .error (.leftOver d.out.length)
    else .error .incorrectPadding
  | c :: rest, d =>
    if c = '=' then
      if d.position ≥ 2 then
        let pads := d.pads + 1
        if d.position + pads ≥ 4 then .ok d.out.reverse
        else decodeFrom rest { d with pads }
      else decodeFrom rest d
    else match sextet? c with
      | some v => decodeFrom rest (d.push v)
      | none => decodeFrom rest d

def decode (text : String) : Except Problem (List UInt8) :=
  decodeFrom text.toList ⟨0, 0, 0, []⟩

/-- Why a text is not ASCII: the first run of characters outside ASCII, by position. -/
def notAscii? (text : String) : Option String :=
  let cs := text.toList
  match cs.findIdx? (·.toNat ≥ 0x80) with
  | none => none
  | some i =>
    let run := (cs.drop i).takeWhile (·.toNat ≥ 0x80)
    some (if run.length = 1 then
        "'ascii' codec can't encode character '" ++ Text.asciiEscaped (String.ofList run) ++
          "' in position " ++ toString i ++ ": ordinal not in range(128)"
      else
        "'ascii' codec can't encode characters in position " ++ toString i ++ "-" ++
          toString (i + run.length - 1) ++ ": ordinal not in range(128)")

end RestConfig.Base64
