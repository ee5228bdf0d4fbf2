import Obligations.Number.Binary64

/-! # The shortest decimal text of a number

Of all decimals that read back as the same number, the one with the fewest digits is written, and
of those the nearest. How the digits are laid out is a style.
-/

namespace Obligations.Number

/-- The decimal digits of a whole number, most significant first. -/
def digitsOf (n : Nat) : List Char :=
  Nat.toDigits 10 n

def intText (n : Int) : String :=
  if n < 0 then String.ofList ('-' :: digitsOf n.natAbs) else String.ofList (digitsOf n.natAbs)

/-- The greatest number of digits that a whole number may have in text. -/
def digitLimit : Nat := 4300

/-- Whether a whole number has no more digits than it may have in text. Longer ones are neither read nor
printed. -/
def isPrintable (n : Int) : Bool :=
  (digitsOf n.natAbs).length ≤ digitLimit

/-- A positive decimal: zero, point, the digits of `digits`, times ten to the `point`. -/
structure Decimal where
  digits : Nat
  point : Int
deriving DecidableEq, Repr

namespace Decimal

/-- The decimal without the zeros at its end, of which at most `bound` are looked for. -/
def dropZeros (bound : Nat) (digits : Nat) : Nat :=
  match bound with
  | 0 => digits
  | bound + 1 =>
    if digits % 10 = 0 && digits != 0 then dropZeros bound (digits / 10) else digits

end Decimal

namespace Binary64

/-- The power of ten just above a positive count of units: the number is at least a tenth of it and
less than it. -/
def decimalPoint (units : Nat) : Int :=
  ((digitsOf (units * Nat.pow 10 400 / unitsPerOne)).length : Int) - 400

/-- The numbers of `count` digits next to a positive number, at most one above and one below, which
read back as it. The nearer stands first. -/
def neighbours (units : Nat) (point : Int) (count : Nat) : List Nat :=
  let exponent := point - count
  let numerator := if exponent < 0 then units * Nat.pow 10 (-exponent).toNat else units
  let denominator := unitsPerOne * (if exponent < 0 then 1 else Nat.pow 10 exponent.toNat)
  let low := numerator / denominator
  let rest := 2 * (numerator % denominator)
  let nearFirst :=
    if rest < denominator || (rest == denominator && low % 2 == 0) then [low, low + 1]
    else [low + 1, low]
  nearFirst.filter fun digits => ofDecimal false digits exponent == .finite false units

/-- The shortest decimal that reads back, among those of `count` to `count + bound` digits. -/
def searchShortest (units : Nat) (point : Int) : Nat → Nat → Nat × Int
  | 0, count => (units, point - count)
  | bound + 1, count =>
    match neighbours units point count with
    | digits :: _ => (digits, point - count)
    | [] => searchShortest units point bound (count + 1)

/-- The shortest decimal that reads back as a positive number. -/
def shortest (units : Nat) : Decimal :=
  let found := searchShortest units (decimalPoint units) 17 1
  let digits := Decimal.dropZeros 20 found.1
  let width := (digitsOf found.1).length
  ⟨digits, found.2 + width⟩

end Binary64

/-- How decimals are laid out. -/
structure DecimalStyle where
  /-- Decimals whose point is left of this place are written with an exponent. -/
  leastPoint : Int
  /-- Decimals whose point is right of this place are written with an exponent. -/
  greatestPoint : Int
  /-- The least number of digits of an exponent. -/
  exponentWidth : Nat
  /-- What follows a whole number in place of a fraction. -/
  wholeEnd : String
  nanText : String
  infinityText : String
deriving Repr

namespace DecimalStyle

/-- The exponent of ten, with its sign and at least the digits that the style asks for. -/
def exponentText (style : DecimalStyle) (exponent : Int) : List Char :=
  let digits := digitsOf exponent.natAbs
  'e' :: (if exponent < 0 then '-' else '+') ::
    (List.replicate (style.exponentWidth - digits.length) '0' ++ digits)

def decimalText (style : DecimalStyle) (value : Decimal) : List Char :=
  let digits := digitsOf value.digits
  if value.point < style.leastPoint || style.greatestPoint < value.point then
    match digits with
    | [] => []
    | first :: rest =>
      first :: (if rest.isEmpty then [] else '.' :: rest) ++ style.exponentText (value.point - 1)
  else if value.point ≤ 0 then
    '0' :: '.' :: (List.replicate (-value.point).toNat '0' ++ digits)
  else
    let whole := value.point.toNat
    if digits.length ≤ whole then
      digits ++ List.replicate (whole - digits.length) '0' ++ style.wholeEnd.toList
    else digits.take whole ++ '.' :: digits.drop whole

def text (style : DecimalStyle) : Binary64 → String
  | .nan => style.nanText
  | .infinite negative => (if negative then "-" else "") ++ style.infinityText
  | .finite negative units =>
    let body := if units = 0 then '0' :: style.wholeEnd.toList
      else style.decimalText (Binary64.shortest units)
    String.ofList (if negative then '-' :: body else body)

/-- Values are written with a point and a digit after it, positionally from a ten-thousandth up to
ten to the sixteenth, and with an exponent of two digits or more outside. -/
def ofValues : DecimalStyle where
  leastPoint := -3
  greatestPoint := 16
  exponentWidth := 2
  wholeEnd := ".0"
  nanText := "nan"
  infinityText := "inf"

end DecimalStyle

def Binary64.valueText (x : Binary64) : String :=
  DecimalStyle.ofValues.text x

/-- A number rounded to one decimal place, a tie to the even digit. -/
def Binary64.tenths : Binary64 → Binary64
  | .finite negative units =>
    .ofDecimal negative (roundDiv (units * 10) unitsPerOne) (-1)
  | x => x

end Obligations.Number
