import RestConfig.Number.Shortest

/-!
# Writing binary64 numbers

A number is written with its shortest round-trip digits. Where the point goes is a
matter of style, fixed by a `FloatStyle` record: the range of decimal exponents written
positionally, whether a whole number keeps a `.0`, the least width of a written exponent,
and the words for infinity and not-a-number.
-/

namespace RestConfig

/-- How a number's shortest digits are laid out. -/
structure FloatStyle where
  positionalFrom : Int
  positionalBelow : Int
  pointZero : Bool
  exponentWidth : Nat
  infinityText : String
  nanText : String

/-- Numbers in messages and reports: positional for decimal exponents from -4 up to 15,
`.0` on whole numbers, exponents of at least two digits with their sign, `inf` and `nan`. -/
def FloatStyle.roundTrip : FloatStyle :=
  { positionalFrom := -4, positionalBelow := 16, pointZero := true, exponentWidth := 2,
    infinityText := "inf", nanText := "nan" }

def decimalDigits (n : Nat) : List Char := Nat.toDigits 10 n

def padDigits (n width : Nat) : List Char :=
  let ds := decimalDigits n
  List.replicate (width - ds.length) '0' ++ ds

/-- Lays out digits `ds` (no trailing zeros) whose first digit has decimal exponent `x`. -/
def FloatStyle.layout (st : FloatStyle) (ds : List Char) (x : Int) : List Char :=
  if st.positionalFrom ≤ x ∧ x < st.positionalBelow then
    if x < 0 then ['0', '.'] ++ List.replicate (-x - 1).toNat '0' ++ ds
    else
      let whole := (x + 1).toNat
      if ds.length ≤ whole then
        ds ++ List.replicate (whole - ds.length) '0' ++ (if st.pointZero then ['.', '0'] else [])
      else ds.take whole ++ ['.'] ++ ds.drop whole
  else
    let mant := match ds with
      | [] => []
      | [d] => [d]
      | d :: rest => d :: '.' :: rest
    mant ++ ['e', if x < 0 then '-' else '+'] ++ padDigits x.natAbs st.exponentWidth

def Binary64.format (st : FloatStyle) (x : Binary64) : String :=
  if x.isNaN then st.nanText
  else
    let sign := if x.negative then "-" else ""
    if x.isInfinite then sign ++ st.infinityText
    else if x.significand = 0 then sign ++ String.ofList (st.layout ['0'] 0)
    else
      let (d, k) := Shortest.digits x.significand x.exponent x.biasedExponent
      let ds := decimalDigits d
      sign ++ String.ofList (st.layout ds (k + ds.length - 1))

def Binary64.text (x : Binary64) : String := x.format FloatStyle.roundTrip

end RestConfig
