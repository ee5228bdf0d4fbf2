/-! # Binary floating-point numbers

The 64-bit format as exact arithmetic. A finite number is a whole count of units, a unit being the
least positive number of the format, so that no operation here leaves the natural numbers. Every
result is the exact one, rounded once to the nearest number of the format, a tie to the even one.
-/

namespace Obligations.Number

/-- A number of the format: a signed count of units, one of the infinities, or no number. -/
inductive Binary64 where
  | nan
  | infinite (negative : Bool)
  | finite (negative : Bool) (units : Nat)
deriving DecidableEq, Repr, Inhabited

/-- The quotient of two numbers to the nearest whole number, a tie to the even one. -/
def roundDiv (numerator denominator : Nat) : Nat :=
  let quotient := numerator / denominator
  let twice := 2 * (numerator % denominator)
  if twice < denominator then quotient
  else if denominator < twice then quotient + 1
  else quotient + quotient % 2

def withSign (negative : Bool) (magnitude : Nat) : Int :=
  if negative then -(magnitude : Int) else magnitude

namespace Binary64

/-- How many units make up one. -/
def unitsPerOne : Nat := Nat.pow 2 1074

def unitsLimit : Nat := Nat.pow 2 2098

/-- The binary digits of a count beyond the fifty-three that are kept. -/
def droppedBits (units : Nat) : Nat :=
  units.log2 - 52

/-- A quotient of counts of units, rounded to a count that the format has. -/
def roundUnits (numerator denominator : Nat) : Nat :=
  let step := Nat.pow 2 (droppedBits (numerator / denominator))
  roundDiv numerator (denominator * step) * step

/-- The number nearest to a quotient of counts of units. -/
def ofUnits (negative : Bool) (numerator denominator : Nat) : Binary64 :=
  let units := roundUnits numerator denominator
  if units < unitsLimit then .finite negative units else .infinite negative

def ofRatio (negative : Bool) (numerator denominator : Nat) : Binary64 :=
  ofUnits negative (numerator * unitsPerOne) denominator

def ofRat (value : Rat) : Binary64 :=
  ofRatio (value < 0) value.num.natAbs value.den

/-- The number nearest to `digits` times ten to the `exponent`. Far outside the range of the format
the answer does not depend on the digits, and no power is formed. -/
def ofDecimal (negative : Bool) (digits : Nat) (exponent : Int) : Binary64 :=
  if digits = 0 then .finite negative 0
  else if 400 < exponent then .infinite negative
  else if exponent + (digits.log2 / 3 + 1 : Nat) < -400 then .finite negative 0
  else if 0 ≤ exponent then ofRatio negative (digits * Nat.pow 10 exponent.toNat) 1
  else ofRatio negative digits (Nat.pow 10 (-exponent).toNat)

/-- The number nearest to a whole number; `none` when that is infinite. -/
def ofInt? (n : Int) : Option Binary64 :=
  match ofRatio (n < 0) n.natAbs 1 with
  | .finite negative units => some (.finite negative units)
  | _ => none

/-- The quotient of two whole numbers, rounded once; `none` when it is infinite or the divisor is
zero. -/
def ofQuotient? (dividend divisor : Int) : Option Binary64 :=
  if divisor = 0 then none
  else
    let negative := decide (dividend < 0) != decide (divisor < 0)
    match ofRatio (negative && dividend != 0) dividend.natAbs divisor.natAbs with
    | .finite negative units => some (.finite negative units)
    | _ => none

/-- The product, rounded once. -/
def mul : Binary64 → Binary64 → Binary64
  | .nan, _ => .nan
  | _, .nan => .nan
  | .infinite p, .infinite q => .infinite (p != q)
  | .infinite p, .finite q units => if units = 0 then .nan else .infinite (p != q)
  | .finite p units, .infinite q => if units = 0 then .nan else .infinite (p != q)
  | .finite p a, .finite q b => ofUnits (p != q) (a * b) unitsPerOne

/-- The greatest whole number not above a finite number. -/
def floor? : Binary64 → Option Int
  | .finite negative units => some (withSign negative units / (unitsPerOne : Int))
  | _ => none

/-- The whole number of a finite number without its fraction. -/
def truncated? : Binary64 → Option Int
  | .finite negative units => some (withSign negative (units / unitsPerOne))
  | _ => none

def toInt? : Binary64 → Option Int
  | .finite negative units =>
    if units % unitsPerOne = 0 then some (withSign negative (units / unitsPerOne)) else none
  | _ => none

/-- The exact value of a finite number. -/
def toRat? : Binary64 → Option Rat
  | .finite negative units => some (mkRat (withSign negative units) unitsPerOne)
  | _ => none

/-- Whether a number is at most a rational one. What is no number is not. -/
def isAtMost (number : Binary64) (bound : Rat) : Bool :=
  match number with
  | .nan => false
  | .infinite negative => negative
  | .finite negative units => decide (mkRat (withSign negative units) unitsPerOne ≤ bound)

def isZero : Binary64 → Bool
  | .finite _ units => units == 0
  | _ => false

end Binary64

/-- Where a number lies on the line: a signed count of units, or beyond all counts. -/
inductive Place where
  | below
  | at (units : Int)
  | above
deriving DecidableEq, Repr

namespace Place

/-- Places in order along the line. -/
def compare : Place → Place → Ordering
  | .below, .below => .eq
  | .below, _ => .lt
  | .at _, .below => .gt
  | .at a, .at b => Ord.compare a b
  | .at _, .above => .lt
  | .above, .above => .eq
  | .above, _ => .gt

end Place

namespace Binary64

/-- The place of a number; what is no number has none. -/
def place? : Binary64 → Option Place
  | .nan => none
  | .infinite negative => some (if negative then .below else .above)
  | .finite negative units => some (.at (withSign negative units))

end Binary64

def placeOfInt (n : Int) : Place :=
  .at (n * (Binary64.unitsPerOne : Int))

end Obligations.Number
