import Obligations.Number.Numeral
import Obligations.Schema.Issue
import Obligations.Value.Basic

/-! # Reading plain values

Readers for texts, codes, truth values and numbers, and for lists, maps and optional values of what
other readers read. Truth values and numbers may be given in several ways, texts only as texts.
-/

namespace Obligations.Schema

open Obligations.Number Obligations.Text

/-- A reading of raw values. -/
abbrev Reader (α : Type) := Value → Checked α

namespace Reader

def anything : Reader Value := .ok

def text : Reader String := fun value =>
  match value.asText? with
  | some content => .ok content
  | none => .refuse .notText

def nonEmptyText : Reader String := fun value =>
  (text value).andThen fun content =>
    if content.isEmpty then .refuse .textTooShort else .ok content

/-- One of a fixed set of codes. -/
def code {α : Type} (ofCode? : String → Option α) : Reader α := fun value =>
  match value.asText?.bind ofCode? with
  | some result => .ok result
  | none => .refuse .notCode

def trueWords : List String := ["1", "t", "y", "on", "yes", "true"]

def falseWords : List String := ["0", "f", "n", "no", "off", "false"]

/-- A truth value in words; only the case of plain letters does not matter. -/
def boolOfText (content : String) : Checked Bool :=
  let word := String.ofList (content.toList.map Char.toLower)
  if trueWords.contains word then .ok true
  else if falseWords.contains word then .ok false
  else .refuse .unreadableBool

/-- A truth value in numbers. -/
def boolOfInt (n : Int) : Checked Bool :=
  if n = 1 then .ok true else if n = 0 then .ok false else .refuse .unreadableBool

/-- A truth value, also in numbers and in words. -/
def bool : Reader Bool
  | .bool b => .ok b
  | .int n => boolOfInt n
  | .float x =>
    match x.toInt? with
    | some n => boolOfInt n
    | none => .refuse .notBool
  | .text content => boolOfText content
  | .visa v => boolOfText v.code
  | .phase p => boolOfText p.code
  | _ => .refuse .notBool

/-- The text without underscores, unless they stand at an end or next to each other. -/
def withoutUnderscores? (chars : List Char) : Option (List Char) :=
  if chars.head? = some '_' || chars.getLast? = some '_' || occursIn ['_', '_'] chars then none
  else some (chars.filter (· != '_'))

/-- Zeros and underscores taken off the front of a numeral that begins with a zero, as long as
something is left. -/
def withoutLeadingZeros : List Char → List Char
  | '0' :: rest =>
    match rest.dropWhile fun c => c == '0' || c == '_' with
    | [] => [rest.getLastD '0']
    | c :: after => if c.isDigit then c :: after else '0' :: rest
  | chars => chars

/-- A whole number in text: a sign, digits, and possibly a point with nothing but zeros behind it.
Zeros may stand in front unless the number is negative. The length limit counts a minus as well. -/
def intOfText (content : String) : Checked Int :=
  let (whole, tail) := (trimNumeral content.toList).span (· != '.')
  let hasPlus := whole.head? = some '+'
  match withoutUnderscores? (withoutLeadingZeros (if hasPlus then whole.drop 1 else whole)) with
  | none => .refuse .unreadableInt
  | some numeral =>
    let isNegative := numeral.head? = some '-' && !hasPlus
    let digits := if isNegative then numeral.drop 1 else numeral
    if digits.isEmpty || !digits.all Char.isDigit || !(tail.drop 1).all (· == '0')
        || (1 < digits.length && digits.head? = some '0') then .refuse .unreadableInt
    else if digitLimit < numeral.length then .refuse .intTooLong
    else .ok (withSign isNegative ((digitsValue? digits).getD 0))

/-- A whole number from a float without a fraction. -/
def intOfFloat (x : Binary64) : Checked Int :=
  match x, x.toInt? with
  | _, some n => .ok n
  | .finite _ _, none => .refuse .fractionalInt
  | _, none => .refuse .notFinite

/-- A whole number, also as a float without a fraction, as a truth value and in text. -/
def int : Reader Int
  | .int n => .ok n
  | .bool b => .ok (if b then 1 else 0)
  | .float x => intOfFloat x
  | .text content => intOfText content
  | .visa v => intOfText v.code
  | .phase p => intOfText p.code
  | _ => .refuse .notInt

/-- A whole number within bounds; the upper bound is looked at first. -/
def intWithin (least : Option Int) (greatest : Option Int) : Reader Int := fun value =>
  (int value).andThen fun n =>
    if greatest.any (· < n) then .refuse .notAtMost
    else if least.any (n < ·) then .refuse .notAtLeast
    else .ok n

/-- A float in text. White space may surround it unless there are underscores in it. -/
def floatOfText (content : String) : Checked Binary64 :=
  let chars := content.toList
  let plain := if chars.contains '_' then withoutUnderscores? chars else some (trimNumeral chars)
  match plain.bind fun digits =>
      if digits.all fun c => c.toNat < 128 && !isNumeralBlank c then readDecimal? digits else none with
  | some x => .ok x
  | none => .refuse .unreadableFloat

/-- A float, also as a whole number, as a truth value and in text. -/
def float : Reader Binary64
  | .float x => .ok x
  | .int n =>
    match Binary64.ofInt? n with
    | some x => .ok x
    | none => .refuse .notFloat
  | .bool b => .ok (Binary64.ofDecimal false (if b then 1 else 0) 0)
  | .text content => floatOfText content
  | .visa v => floatOfText v.code
  | .phase p => floatOfText p.code
  | _ => .refuse .notFloat

/-- A float above zero; what is no number is let through. -/
def positiveFloat : Reader Binary64 := fun value =>
  (float value).andThen fun x =>
    match x.place? with
    | some place =>
      if place.compare (.at 0) == .gt then .ok x else .refuse .notGreater
    | none => .ok x

/-- A value that may be null. -/
def optional {α : Type} (reader : Reader α) : Reader (Option α)
  | .null => .ok none
  | value => (reader value).map some

/-- The items of a list from a given index on. -/
def items {α : Type} (reader : Reader α) : Nat → List Value → Checked (List α)
  | _, [] => .ok []
  | index, value :: rest =>
    Checked.both List.cons ((reader value).under (.item index)) (items reader (index + 1) rest)

def listOf {α : Type} (reader : Reader α) : Reader (List α)
  | .list values => items reader 0 values
  | _ => .refuse .notList

/-- The members of a map. -/
def entries {α : Type} (reader : Reader α) : List (String × Value) → Checked (List (String × α))
  | [] => .ok []
  | (name, value) :: rest =>
    Checked.both (fun result others => (name, result) :: others)
      ((reader value).under (.member name)) (entries reader rest)

/-- A map with any keys. -/
def mapOf {α : Type} (reader : Reader α) : Reader (List (String × α))
  | .map members => entries reader members
  | _ => .refuse .notMap

end Reader

end Obligations.Schema
