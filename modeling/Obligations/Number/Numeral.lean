import Obligations.Text.Blank
import Obligations.Text.Case
import Obligations.Text.Digit
import Obligations.Number.Shortest

/-! # Numerals

Whole numbers and decimals in text. Digits may come from any script, single underscores may stand
between digits, and white space may surround the numeral. Whole numbers beyond a length limit are
refused.
-/

namespace Obligations.Number

open Obligations.Text

/-- Why a text is not read as a whole number. -/
inductive NumeralFault where
  | malformed
  | tooLong (digits : Nat)
deriving DecidableEq, Repr

/-- What a numeral beyond the length limit is answered with. -/
def tooLongText (digits : Nat) : String :=
  "Exceeds the limit (4300 digits) for integer string conversion: value has " ++
    intText digits ++ " digits; use sys.set_int_max_str_digits() to increase the limit"

/-- What printing a whole number beyond the length limit is answered with. -/
def unprintableText : String :=
  "Exceeds the limit (4300 digits) for integer string conversion; " ++
    "use sys.set_int_max_str_digits() to increase the limit"

/-- White space that may surround a numeral: all but the four separators below the space. -/
def isNumeralBlank (c : Char) : Bool :=
  isBlank c && !(0x1c ≤ c.toNat && c.toNat ≤ 0x1f)

/-- A text without the white space around a numeral. -/
def trimNumeral (chars : List Char) : List Char :=
  ((chars.dropWhile isNumeralBlank).reverse.dropWhile isNumeralBlank).reverse

/-- The digits of a row in which single underscores may stand between digits. -/
def groupedDigits? : List Char → Option (List Char)
  | [] => none
  | [c] => if isDecimalDigit c then some [c] else none
  | c :: '_' :: rest => if isDecimalDigit c then (groupedDigits? rest).map (c :: ·) else none
  | c :: d :: rest => if isDecimalDigit c then (groupedDigits? (d :: rest)).map (c :: ·) else none

/-- A sign taken off the start of a numeral: whether it is a minus, and the rest. -/
def takeSign : List Char → Bool × List Char
  | '-' :: rest => (true, rest)
  | '+' :: rest => (false, rest)
  | rest => (false, rest)

/-- The whole number that a text denotes. -/
def readInt (chars : List Char) : Except NumeralFault Int :=
  let (negative, body) := takeSign (trimNumeral chars)
  match groupedDigits? body with
  | none => .error .malformed
  | some digits =>
    if digitLimit < digits.length then .error (.tooLong digits.length)
    else
      match digitsValue? digits with
      | none => .error .malformed
      | some value => .ok (withSign negative value)

/-- The digits at the start of a text, with single underscores between them taken out. An underscore
that no digit follows ends the row. -/
def takeDigits : List Char → List Char × List Char
  | [] => ([], [])
  | c :: '_' :: next :: rest =>
    if !isDecimalDigit c then ([], c :: '_' :: next :: rest)
    else if !isDecimalDigit next then ([c], '_' :: next :: rest)
    else
      let (digits, after) := takeDigits (next :: rest)
      (c :: digits, after)
  | c :: rest =>
    if isDecimalDigit c then
      let (digits, after) := takeDigits rest
      (c :: digits, after)
    else ([], c :: rest)

/-- The exponent at the end of a decimal: nothing, or a letter, a sign and digits. -/
def readExponent? : List Char → Option Int
  | [] => some 0
  | c :: rest =>
    if c == 'e' || c == 'E' then
      let (negative, body) := takeSign rest
      match takeDigits body with
      | ([], _) => none
      | (digits, []) => (digitsValue? digits).map (withSign negative)
      | _ => none
    else none

/-- A decimal without its sign. -/
def readMagnitude? (negative : Bool) (chars : List Char) : Option Binary64 :=
  let word := String.ofList (chars.map Char.toLower)
  if word = "inf" || word = "infinity" then some (.infinite negative)
  else if word = "nan" then some .nan
  else
    let (whole, afterWhole) := takeDigits chars
    let (fraction, tail) := match afterWhole with
      | '.' :: rest => takeDigits rest
      | rest => ([], rest)
    if whole.isEmpty && fraction.isEmpty then none
    else do
      let exponent ← readExponent? tail
      let digits ← digitsValue? (whole ++ fraction)
      return Binary64.ofDecimal negative digits (exponent - fraction.length)

/-- The number that a text denotes, as a whole numeral, a decimal, an infinity or no number. -/
def readDecimal? (chars : List Char) : Option Binary64 :=
  let (negative, body) := takeSign (trimNumeral chars)
  readMagnitude? negative body

end Obligations.Number
