import Obligations.Calendar.Iso
import Obligations.Number.Numeral
import Obligations.Value.Basic

/-! # Plain scalars of YAML

The value that a scalar without quotes stands for: a word for nothing or for a truth value, a whole
number of base two, eight, ten, sixteen or sixty, a decimal with a point, a date or a timestamp, or
else the text itself.
-/

namespace Obligations.Document

open Obligations.Calendar Obligations.Number Obligations.Text

namespace Yaml

/-- What is wrong with a text that is not read. -/
inductive Fault where
  /-- A character that may not stand in a document. -/
  | character
  /-- A part of a document that cannot begin or end where it does. -/
  | token
  /-- Parts that do not follow each other. -/
  | arrangement
  /-- More than one document. -/
  | secondDocument
  /-- A scalar with a meaning that is not read. -/
  | scalar
  /-- A scalar in the form of a date or a timestamp that is none. -/
  | noDate
deriving DecidableEq, Repr

/-- The words for nothing and for truth values. -/
def words : List (String × Value) :=
  let spelled := fun (names : List String) (value : Value) => names.map fun name => (name, value)
  spelled ["", "~", "null", "Null", "NULL"] .null ++
  spelled ["yes", "Yes", "YES", "true", "True", "TRUE", "on", "On", "ON"] (.bool true) ++
  spelled ["no", "No", "NO", "false", "False", "FALSE", "off", "Off", "OFF"] (.bool false) ++
  spelled [".inf", ".Inf", ".INF", "+.inf", "+.Inf", "+.INF"] (.float (.infinite false)) ++
  spelled ["-.inf", "-.Inf", "-.INF"] (.float (.infinite true)) ++
  spelled [".nan", ".NaN", ".NAN"] (.float .nan)

/-- Whether all characters are of a kind or underscores, and there is at least one. -/
def isRow (kind : Char → Bool) (chars : List Char) : Bool :=
  !chars.isEmpty && chars.all fun c => kind c || c == '_'

def isBaseDigit (base : Nat) (c : Char) : Bool :=
  let value := if c.isDigit then c.toNat - 48
    else if 'a' ≤ c && c ≤ 'f' then c.toNat - 87
    else if 'A' ≤ c && c ≤ 'F' then c.toNat - 55
    else base
  value < base

/-- The number that digits of a base denote; underscores do not count. -/
def valueIn (base : Nat) (chars : List Char) : Nat :=
  chars.foldl (fun value c =>
    if c.isDigit then base * value + (c.toNat - 48)
    else if 'a' ≤ c && c ≤ 'f' then base * value + (c.toNat - 87)
    else if 'A' ≤ c && c ≤ 'F' then base * value + (c.toNat - 55)
    else value) 0

/-- Whether a text is a number below sixty, of one or two digits. -/
def isSixtieth (chars : List Char) : Bool :=
  match chars with
  | [c] => c.isDigit
  | [c, d] => '0' ≤ c && c ≤ '5' && d.isDigit
  | _ => false

/-- The number that parts between colons denote, each sixty times the next. -/
def sixtyValue (parts : List (List Char)) : Nat :=
  parts.foldl (fun value part => 60 * value + valueIn 10 part) 0

/-- A whole number without its sign. -/
def magnitude? (chars : List Char) : Option Nat :=
  match chars with
  | ['0'] => some 0
  | '0' :: 'b' :: digits => if isRow (isBaseDigit 2) digits then some (valueIn 2 digits) else none
  | '0' :: 'x' :: digits => if isRow (isBaseDigit 16) digits then some (valueIn 16 digits) else none
  | '0' :: digits => if isRow (isBaseDigit 8) digits then some (valueIn 8 digits) else none
  | _ =>
    match pieces ':' chars with
    | [] => none
    | first :: parts =>
      if first.head?.any Char.isDigit && isRow Char.isDigit first && parts.all isSixtieth then
        some (sixtyValue (first :: parts))
      else none

/-- The exponent behind the digits of a decimal: nothing, or a letter, a sign and digits. -/
def isExponent (chars : List Char) : Bool :=
  match chars with
  | [] => true
  | letter :: sign :: digits =>
    (letter == 'e' || letter == 'E') && (sign == '+' || sign == '-') && !digits.isEmpty &&
      digits.all Char.isDigit
  | _ => false

/-- A decimal with a point, without its sign. It starts with a digit, or where there is no sign with
the point. -/
def isDecimal (signed : Bool) (chars : List Char) : Bool :=
  match chars with
  | '.' :: first :: rest =>
    !signed && first.isDigit &&
      isExponent ((first :: rest).dropWhile fun c => c.isDigit || c == '_')
  | first :: _ =>
    first.isDigit &&
      match chars.dropWhile (fun c => c.isDigit || c == '_') with
      | '.' :: rest => isExponent (rest.dropWhile fun c => c.isDigit || c == '_')
      | _ => false
  | [] => false

/-- A decimal of base sixty, without its sign: at least one colon, and a point. -/
def sixtyDecimal? (chars : List Char) : Option (Nat × Nat × Nat) :=
  let (whole, tail) := chars.span (· != '.')
  match pieces ':' whole, tail with
  | first :: part :: parts, '.' :: fraction =>
    if first.head?.any Char.isDigit && isRow Char.isDigit first && (part :: parts).all isSixtieth &&
        fraction.all (fun c => c.isDigit || c == '_') then
      let digits := fraction.filter (· != '_')
      some (sixtyValue (first :: part :: parts), valueIn 10 digits, digits.length)
    else none
  | _, _ => none

def number? (chars : List Char) : Option Value :=
  let (negative, body) := takeSign chars
  let signed := body.length != chars.length
  match magnitude? body with
  | some n => some (.int (withSign negative n))
  | none =>
    if isDecimal signed body then
      (readDecimal? (chars.filter (· != '_'))).map .float
    else
      (sixtyDecimal? body).map fun (whole, fraction, places) =>
        .float (.ofDecimal negative (whole * Nat.pow 10 places + fraction) (-places))

/-- One or two digits. -/
def shortNumber? (chars : List Char) : Option (Nat × List Char) :=
  (takeNumber? 2 chars).or (takeNumber? 1 chars)

/-- The distance from universal time at the end of a timestamp, if the form is right. -/
def zone? (chars : List Char) : Option (Option Int) :=
  match chars.dropWhile (fun c => c == ' ' || c == '\t') with
  | [] => if chars.isEmpty then some none else none
  | ['Z'] => some (some 0)
  | sign :: rest =>
    if sign == '+' || sign == '-' then do
      let (hours, after) ← shortNumber? rest
      let minutes ← match after with
        | [] => some 0
        | ':' :: digits => do
          let (minutes, last) ← takeNumber? 2 digits
          if last.isEmpty then some minutes else none
        | _ => none
      return some (withSign (sign == '-') ((hours * 60 + minutes) * 60 * microsPerSecond))
    else none

/-- The fraction of a second behind a point, of which six digits count, and the rest. -/
def fraction (chars : List Char) : Nat × List Char :=
  match chars with
  | '.' :: rest =>
    let digits := rest.takeWhile Char.isDigit
    let kept := digits.take 6
    (valueIn 10 kept * Nat.pow 10 (6 - kept.length), rest.drop digits.length)
  | rest => (0, rest)

/-- The separator of a date and a time of day: a letter, or white space. -/
def afterSeparator? (chars : List Char) : Option (List Char) :=
  match chars with
  | 'T' :: rest => some rest
  | 't' :: rest => some rest
  | c :: rest =>
    if c == ' ' || c == '\t' then some (rest.dropWhile fun d => d == ' ' || d == '\t') else none
  | [] => none

/-- The parts of a timestamp in text: year, month, day, the parts of the time of day, and the distance
of the clock. -/
def momentParts? (chars : List Char) : Option ((Nat × Nat × Nat) × ClockParts × Option Int) := do
  let (year, afterYear) ← takeNumber? 4 chars
  let monthPart ← stripStart? ['-'] afterYear
  let (month, afterMonth) ← shortNumber? monthPart
  let dayPart ← stripStart? ['-'] afterMonth
  let (day, afterDay) ← shortNumber? dayPart
  let clock ← afterSeparator? afterDay
  let (hour, afterHour) ← shortNumber? clock
  let minutePart ← stripStart? [':'] afterHour
  let (minute, afterMinute) ← takeNumber? 2 minutePart
  let secondPart ← stripStart? [':'] afterMinute
  let (second, afterSecond) ← takeNumber? 2 secondPart
  let (micro, zonePart) := fraction afterSecond
  let offset ← zone? zonePart
  return ((year, month, day), ⟨hour, minute, second, micro, true⟩, offset)

def dateParts? (chars : List Char) : Option (Nat × Nat × Nat) := do
  let (year, afterYear) ← takeNumber? 4 chars
  let monthPart ← stripStart? ['-'] afterYear
  let (month, afterMonth) ← takeNumber? 2 monthPart
  let dayPart ← stripStart? ['-'] afterMonth
  let (day, rest) ← takeNumber? 2 dayPart
  if rest.isEmpty then some (year, month, day) else none

def plainValue (content : String) : Except Fault Value :=
  let chars := content.toList
  match words.lookup content, number? chars, dateParts? chars, momentParts? chars with
  | some value, _, _, _ => .ok value
  | none, some value, _, _ => .ok value
  | none, none, some (year, month, day), _ =>
    match Date.ofParts? year month day with
    | some date => .ok (.date date)
    | none => .error .noDate
  | none, none, none, some ((year, month, day), clock, offset) =>
    match (Date.ofParts? year month day).bind fun date => withClock? date clock offset with
    | some moment => .ok (.stamp moment)
    | none => .error .noDate
  | none, none, none, none =>
    if content == "=" || content == "<<" then .error .scalar else .ok (.text content)

end Yaml

end Obligations.Document
