import Obligations.Calendar.Iso
import Obligations.Schema.Scalar

/-! # Reading dates and timestamps

A date is year, month and day with dashes, and nothing else; a timestamp at midnight is taken for a
date as well. A timestamp is a date, a letter or a space, and a time of day, with an optional
fraction and distance from universal time; a date is taken for its midnight. A number stands for the
seconds since 1970, or for the milliseconds if it is large.
-/

namespace Obligations.Schema

open Obligations.Calendar Obligations.Number Obligations.Text

/-- Year, month and day at the start of a text. -/
def takeDate? (chars : List Char) : Option (Date × List Char) := do
  let (year, afterYear) ← takeNumber? 4 chars
  let monthPart ← stripStart? ['-'] afterYear
  let (month, afterMonth) ← takeNumber? 2 monthPart
  let dayPart ← stripStart? ['-'] afterMonth
  let (day, rest) ← takeNumber? 2 dayPart
  let date ← Date.ofParts? year month day
  return (date, rest)

/-- The seconds of a time of day, and the fraction behind them. Fractions have a point or a comma
and at least one digit; six digits count. -/
def takeSeconds? (chars : List Char) : Option (Nat × Nat × List Char) :=
  match chars with
  | ':' :: rest => do
    let (second, after) ← takeNumber? 2 rest
    match after with
    | mark :: tail =>
      if mark == '.' || mark == ',' then
        let digits := tail.takeWhile Char.isDigit
        if digits.isEmpty then none
        else
          let kept := digits.take 6
          let value ← digitsValue? kept
          return (second, value * Nat.pow 10 (6 - kept.length), tail.drop digits.length)
      else return (second, 0, after)
    | [] => return (second, 0, [])
  | _ => some (0, 0, chars)

/-- A distance from universal time, less than a day, at the end of a text. -/
def readZone? (chars : List Char) : Option (Option Int) :=
  match chars with
  | [] => some none
  | [c] => if c == 'Z' || c == 'z' then some (some 0) else none
  | sign :: rest => do
    let negative ← if sign == '+' then some false
      else if sign == '-' || sign == '−' then some true else none
    let (hours, afterHours) ← takeNumber? 2 rest
    let minutePart := (stripStart? [':'] afterHours).getD afterHours
    let (minutes, after) ← takeNumber? 2 minutePart
    let seconds := hours * 3600 + minutes * 60
    if after.isEmpty && minutes < 60 && seconds < 86400 then
      return some (withSign negative (seconds * microsPerSecond))
    else none

def readMoment? (chars : List Char) : Option Timestamp := do
  let (date, afterDate) ← takeDate? chars
  match afterDate with
  | [] => none
  | separator :: clock =>
    if ['T', 't', ' ', '_'].all (· != separator) then none
    else
      let (hour, afterHour) ← takeNumber? 2 clock
      let minutePart ← stripStart? [':'] afterHour
      let (minute, afterMinute) ← takeNumber? 2 minutePart
      let (second, micro, zonePart) ← takeSeconds? afterMinute
      let zone ← readZone? zonePart
      withClock? date ⟨hour, minute, second, micro, true⟩ zone

/-- Seconds since 1970 beyond which a number counts milliseconds. -/
def secondsLimit : Nat := 20000000000

/-- The ordinal of the first day of 1970. -/
def epochOrdinal : Nat := 719163

/-- The timestamp a number of microseconds after the beginning of 1970, in universal time. -/
def momentOfMicros? (micros : Int) : Option Timestamp :=
  Timestamp.ofPosition? (epochOrdinal * microsPerDay + micros) (some 0)

/-- The timestamp that a whole number stands for. -/
def momentOfInt? (n : Int) : Option Timestamp :=
  if n.natAbs ≤ secondsLimit then momentOfMicros? (n * 1000000) else momentOfMicros? (n * 1000)

def momentOfFloat? (x : Binary64) : Option Timestamp :=
  match x with
  | .finite negative units =>
    let scale := if units ≤ secondsLimit * Binary64.unitsPerOne then 1000000 else 1000
    momentOfMicros? (withSign negative (roundDiv (units * scale) Binary64.unitsPerOne))
  | _ => none

/-- The timestamp that a number in text stands for. -/
def momentOfNumeral? (chars : List Char) : Option Timestamp :=
  let (negative, body) := takeSign chars
  let (whole, tail) := body.span Char.isDigit
  match tail with
  | [] => do
    if whole.isEmpty then none
    else momentOfInt? (withSign negative (← digitsValue? whole))
  | '.' :: fraction =>
    if whole.isEmpty || !fraction.all Char.isDigit then none
    else do momentOfFloat? (← readDecimal? chars)
  | _ => none

namespace Reader

def dateOfMoment (moment : Timestamp) : Checked Date :=
  if moment.micros = 0 then .ok moment.date else .refuse .dateWithTime

def dateOfText (content : String) : Checked Date :=
  let chars := content.toList
  match takeDate? chars with
  | some (date, []) => .ok date
  | _ =>
    match (readMoment? chars).or (momentOfNumeral? chars) with
    | some moment => dateOfMoment moment
    | none => .refuse .unreadableDate

/-- A date. Whole numbers that no float comes near are of no kind that dates are read from. -/
def date : Reader Date
  | .date d => .ok d
  | .stamp moment => dateOfMoment moment
  | .text content => dateOfText content
  | .visa v => dateOfText v.code
  | .phase p => dateOfText p.code
  | .int n =>
    match momentOfInt? n with
    | some moment => dateOfMoment moment
    | none => .refuse (if (Binary64.ofInt? n).isSome then .unreadableDate else .notDate)
  | .float x =>
    match momentOfFloat? x with
    | some moment => dateOfMoment moment
    | none => .refuse .unreadableDate
  | _ => .refuse .notDate

def timestampOfText (content : String) : Checked Timestamp :=
  let chars := content.toList
  match takeDate? chars with
  | some (date, []) => .ok (Timestamp.midnight date)
  | _ =>
    match (readMoment? chars).or (momentOfNumeral? chars) with
    | some moment => .ok moment
    | none => .refuse .unreadableTimestamp

def timestamp : Reader Timestamp
  | .stamp moment => .ok moment
  | .date d => .ok (Timestamp.midnight d)
  | .text content => timestampOfText content
  | .visa v => timestampOfText v.code
  | .phase p => timestampOfText p.code
  | .int n =>
    match momentOfInt? n with
    | some moment => .ok moment
    | none => .refuse (if (Binary64.ofInt? n).isSome then .timestampOutside else .notTimestamp)
  | .float x =>
    match momentOfFloat? x with
    | some moment => .ok moment
    | none => .refuse .timestampOutside
  | _ => .refuse .notTimestamp

end Reader

end Obligations.Schema
