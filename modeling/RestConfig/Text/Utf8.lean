import RestConfig.Text.Quoted

/-!
# UTF-8

Bytes are decoded as UTF-8 with the strict rules of the standard: no overlong forms, no
surrogates, nothing above U+10FFFF. A decoding failure names the offending byte (or the
bytes of an unfinished sequence) by position, and says whether a sequence starts with a
byte that cannot start one, continues with a byte that cannot continue it, or is cut short
by the end of the data.
-/

namespace RestConfig.Utf8

def byteText (b : UInt8) : String := "0x" ++ String.ofList (Text.hexDigits b.toNat 2)

/-- Why bytes are not UTF-8: the position of the offending sequence, how many bytes of it
are cited, its first byte and the reason. -/
structure DecodeError where
  position : Nat
  cited : Nat
  first : UInt8
  reason : String

def DecodeError.message (e : DecodeError) : String :=
  if e.cited ≤ 1 then
    "'utf-8' codec can't decode byte " ++ byteText e.first ++ " in position " ++
      toString e.position ++ ": " ++ e.reason
  else
    "'utf-8' codec can't decode bytes in position " ++ toString e.position ++ "-" ++
      toString (e.position + e.cited - 1) ++ ": " ++ e.reason

/-- The length of a sequence by its first byte and the range its second byte must lie in;
`none` for a byte that cannot start a sequence. -/
def sequenceShape (b : Nat) : Option (Nat × Nat × Nat) :=
  if b < 0x80 then some (1, 0, 0)
  else if 0xC2 ≤ b ∧ b ≤ 0xDF then some (2, 0x80, 0xBF)
  else if b = 0xE0 then some (3, 0xA0, 0xBF)
  else if b = 0xED then some (3, 0x80, 0x9F)
  else if 0xE1 ≤ b ∧ b ≤ 0xEF then some (3, 0x80, 0xBF)
  else if b = 0xF0 then some (4, 0x90, 0xBF)
  else if b = 0xF4 then some (4, 0x80, 0x8F)
  else if 0xF1 ≤ b ∧ b ≤ 0xF3 then some (4, 0x80, 0xBF)
  else none

/-- Counts the continuation bytes that are valid, the first within `lo..hi` and the others
within `0x80..0xBF`, up to `want` of them. Answers the count and whether the data ended. -/
def continuation : Nat → Nat → Nat → List UInt8 → Nat × Bool
  | 0, _, _, _ => (0, false)
  | _ + 1, _, _, [] => (0, true)
  | want + 1, lo, hi, b :: rest =>
    if lo ≤ b.toNat ∧ b.toNat ≤ hi then
      let (k, ended) := continuation want 0x80 0xBF rest
      (k + 1, ended)
    else (0, false)

def codePoint (first : Nat) (more : List UInt8) : Nat :=
  let lead := match more.length with
    | 0 => first
    | 1 => first % 0x20
    | 2 => first % 0x10
    | _ => first % 0x08
  more.foldl (fun acc b => acc * 64 + b.toNat % 64) lead

/-- Whether bytes are the first two of a surrogate's sequence and nothing more. A reader
that does not yet know the end of its data holds these back like an unfinished
sequence. -/
def surrogateStart : List UInt8 → Bool
  | [b, c] => b.toNat = 0xED && 0xA0 ≤ c.toNat && c.toNat ≤ 0xBF
  | _ => false

/-- Decodes bytes from a position; the accumulator holds the characters, reversed. With
`final`, the data ends where the bytes do; without it, an unfinished sequence at the end
(or the start of a surrogate's) is held back and answered with the characters. -/
def decodeFrom (final : Bool) :
    List UInt8 → Nat → List Char → Except DecodeError (List Char × List UInt8)
  | [], _, acc => .ok (acc.reverse, [])
  | b :: rest, pos, acc =>
    match sequenceShape b.toNat with
    | none => .error ⟨pos, 1, b, "invalid start byte"⟩
    | some (1, _, _) => decodeFrom final rest (pos + 1) (Char.ofNat b.toNat :: acc)
    | some (n, lo, hi) =>
      let (k, ended) := continuation (n - 1) lo hi rest
      if k = n - 1 then
        decodeFrom final (rest.drop k) (pos + n)
          (Char.ofNat (codePoint b.toNat (rest.take k)) :: acc)
      else if !final && (ended || surrogateStart (b :: rest)) then .ok (acc.reverse, b :: rest)
      else if ended then .error ⟨pos, k + 1, b, "unexpected end of data"⟩
      else .error ⟨pos, k + 1, b, "invalid continuation byte"⟩
termination_by data => data.length
decreasing_by all_goals (simp only [List.length_drop, List.length_cons]; omega)

def decode (data : List UInt8) : Except DecodeError String :=
  (decodeFrom true data 0 []).map fun (cs, _) => String.ofList cs

def blockSize : Nat := 8192

def blocks (size : Nat) (data : List UInt8) : List (List UInt8) :=
  if h : size = 0 ∨ data = [] then (if data = [] then [] else [data])
  else data.take size :: blocks size (data.drop size)
termination_by data.length
decreasing_by
  simp only [not_or] at h
  have : data.length ≠ 0 := by simpa using h.2
  simp only [List.length_drop]
  omega

/-- Decodes blocks as they arrive, after the bytes held back from the blocks before;
`done` holds the characters so far. A failure's position counts from the first byte
decoded with the block. At the end, bytes still held back are decoded on their own. -/
def decodeArriving (held : List UInt8) (done : List Char) :
    List (List UInt8) → Except DecodeError (List Char)
  | [] =>
    if held.isEmpty then .ok done
    else (decodeFrom true held 0 []).map fun (cs, _) => done ++ cs
  | blk :: more =>
    match decodeFrom false (held ++ blk) 0 [] with
    | .error e => .error e
    | .ok (cs, rest) => decodeArriving rest (done ++ cs) more

/-- Decodes UTF-8 bytes read as a stream in blocks of `blockSize` bytes: what is decoded
is the same as for `decode`, but a failure's position counts from the start of the block
it is found in, or from the bytes held back before it. -/
def decodeStream (data : List UInt8) : Except DecodeError String :=
  (decodeArriving [] [] (blocks blockSize data)).map String.ofList

end RestConfig.Utf8
