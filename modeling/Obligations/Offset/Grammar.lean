import Obligations.Offset.Basic
import Obligations.Number.Numeral
import Obligations.Text.Quoted

/-! # Offsets in text

A calendar offset is an optional sign, digits, and the name of a day, week, month or year with an
optional `s`. A duration has no sign and may count minutes and hours as well. Case does not matter,
and white space around the text is ignored.
-/

namespace Obligations

open Obligations.Number Obligations.Text

/-- Why a text is not an offset. -/
inductive OffsetFault where
  /-- The text is not a calendar offset. -/
  | notOffset (shown : String)
  /-- The text is not a duration. -/
  | notDuration (shown : String)
  /-- The amount has more digits than are allowed. -/
  | amountTooLong (digits : Nat)
  /-- The word has the letters of a unit up to case, but its lower-case form names none. -/
  | unknownUnit (word : String)
deriving DecidableEq, Repr

namespace OffsetFault

/-- What the failure is reported as. -/
def message : OffsetFault → String
  | .notOffset shown => "Invalid offset format: " ++ shown
  | .notDuration shown => "Invalid time value format: " ++ shown
  | .amountTooLong digits => tooLongText digits
  | .unknownUnit word => quoted word ++ " is not a valid OffsetUnit"

end OffsetFault

namespace Offset

/-- Whether a character is a given lower-case letter when case does not matter. The long s and the
dotless i count as forms of their letters. -/
def isLetter (letter c : Char) : Bool :=
  lowerChar c == letter || (letter == 's' && c == 'ſ') || (letter == 'i' && c == 'ı')

/-- Whether a word consists of given letters when case does not matter. -/
def isWord : List Char → List Char → Bool
  | [], [] => true
  | letter :: letters, c :: chars => isLetter letter c && isWord letters chars
  | _, _ => false

/-- Whether a word is the name of a unit with an optional `s`, when case does not matter. -/
def namesUnit (unit : TimeUnit) (word : List Char) : Bool :=
  isWord unit.name.toList word || isWord (unit.name.toList ++ ['s']) word

/-- The amount of an offset and its unit, after the sign. The word has to name one of the units. -/
def readUnsigned (units : List TimeUnit) (malformed : OffsetFault) (chars : List Char) :
    Except OffsetFault Offset :=
  let (digits, word) := chars.span isDecimalDigit
  if digits.isEmpty || !units.any (namesUnit · word) then .error malformed
  else if digitLimit < digits.length then .error (.amountTooLong digits.length)
  else
    let name := String.ofList ((lowerChars word).reverse.dropWhile (· == 's')).reverse
    match digitsValue? digits, TimeUnit.ofName? name with
    | some amount, some unit => .ok ⟨amount, unit⟩
    | _, _ => .error (.unknownUnit name)

def calendarUnits : List TimeUnit := [.day, .week, .month, .year]

def ofText (text : String) : Except OffsetFault Offset :=
  let malformed := OffsetFault.notOffset text
  match trimChars text.toList with
  | '-' :: rest => (readUnsigned calendarUnits malformed rest).map fun offset =>
      { offset with amount := -offset.amount }
  | '+' :: rest => readUnsigned calendarUnits malformed rest
  | chars => readUnsigned calendarUnits malformed chars

def durationOfText (text : String) : Except OffsetFault Offset :=
  readUnsigned TimeUnit.all (.notDuration text) (trimChars text.toList)

end Offset

end Obligations
