import Obligations.Calendar.Timestamp
import Obligations.Text.Search

/-! # Dates and timestamps in ISO form

Printing, and reading of the basic and extended forms: a calendar date or a date by week, and after
it any single character and a time of day with an optional distance from universal time.
-/

namespace Obligations.Calendar

open Obligations.Number Obligations.Text

/-- A number with zeros before it up to a width. -/
def padded (width n : Nat) : List Char :=
  let digits := digitsOf n
  List.replicate (width - digits.length) '0' ++ digits

namespace Date

/-- Year, month and day with dashes between them. -/
def isoChars (date : Date) : List Char :=
  padded 4 date.year ++ '-' :: padded 2 date.month ++ '-' :: padded 2 date.day

/-- Year, month and day with dashes between them. -/
def iso (date : Date) : String :=
  String.ofList date.isoChars

/-- Month in words, day and year. -/
def longText (date : Date) : String :=
  monthName date.month ++ " " ++ intText date.day ++ ", " ++ intText date.year

end Date

/-- Hours, minutes and seconds, and the microseconds unless there are none. -/
def clockChars (micros : Nat) : List Char :=
  let seconds := micros / microsPerSecond
  let fraction := micros % microsPerSecond
  padded 2 (seconds / 3600) ++ ':' :: padded 2 (seconds / 60 % 60) ++ ':' :: padded 2 (seconds % 60) ++
    (if fraction = 0 then [] else '.' :: padded 6 fraction)

/-- The distance of a clock from universal time: its sign, hours and minutes, and the seconds unless
there are none. -/
def offsetChars (offset : Int) : List Char :=
  let micros := offset.natAbs
  let seconds := micros / microsPerSecond
  let fraction := micros % microsPerSecond
  (if offset < 0 then '-' else '+') :: padded 2 (seconds / 3600) ++ ':' :: padded 2 (seconds / 60 % 60) ++
    (if seconds % 60 = 0 && fraction = 0 then []
     else ':' :: padded 2 (seconds % 60) ++ (if fraction = 0 then [] else '.' :: padded 6 fraction))

namespace Timestamp

/-- Date, separator, time of day and the distance of the clock where it is known. -/
def isoWith (separator : Char) (stamp : Timestamp) : String :=
  String.ofList (stamp.date.isoChars ++ separator :: clockChars stamp.micros ++
    (stamp.offset.map offsetChars).getD [])

def iso (stamp : Timestamp) : String :=
  stamp.isoWith 'T'

def text (stamp : Timestamp) : String :=
  stamp.isoWith ' '

end Timestamp

/-- Digits of plain decimal numbers; other scripts have no place in the ISO form. -/
def asciiDigit? (c : Char) : Option Nat :=
  if c.isDigit then some (c.toNat - 48) else none

/-- The number in the next `count` digits, and the rest. -/
def takeNumber? : Nat → List Char → Option (Nat × List Char)
  | 0, rest => some (0, rest)
  | _ + 1, [] => none
  | count + 1, c :: rest => do
    let digit ← asciiDigit? c
    let (value, after) ← takeNumber? count rest
    return (digit * Nat.pow 10 count + value, after)

/-- The first Monday of the weeks of a year: the one of the week that holds the fourth of January. -/
def firstMonday (year : Nat) : Nat :=
  let first := Date.daysBeforeYear year + 1
  let weekday := (first + 6) % 7
  if 3 < weekday then first + 7 - weekday else first - weekday

/-- Whether a year has fifty-three weeks. -/
def hasLongYear (year : Nat) : Bool :=
  let weekday := (Date.daysBeforeYear year + 7) % 7
  weekday == 3 || (weekday == 2 && isLeapYear year)

/-- A date given by year, week and day of the week. -/
def Date.ofWeek? (year week weekday : Nat) : Option Date :=
  if 1 ≤ year ∧ 1 ≤ week ∧ (week ≤ 52 ∨ week = 53 ∧ hasLongYear year) ∧ 1 ≤ weekday ∧ weekday ≤ 7
  then Date.ofOrdinal? (firstMonday year + (week - 1) * 7 + (weekday - 1) : Nat)
  else none

/-- A date at the start of a text whose date part has a given length. Nothing beyond the last digit
of the date is looked at. -/
def readDatePart? (length : Nat) (chars : List Char) : Option Date := do
  let (year, afterYear) ← takeNumber? 4 chars
  let (dashed, body) := match afterYear with
    | '-' :: rest => (true, rest)
    | rest => (false, rest)
  match body with
  | 'W' :: weekPart =>
    let (week, afterWeek) ← takeNumber? 2 weekPart
    if (if dashed then 8 else 7) < length then
      let dayPart ← if dashed then stripStart? ['-'] afterWeek else some afterWeek
      let (weekday, _) ← takeNumber? 1 dayPart
      Date.ofWeek? year week weekday
    else Date.ofWeek? year week 1
  | _ =>
    let (month, afterMonth) ← takeNumber? 2 body
    let dayPart ← if dashed then stripStart? ['-'] afterMonth else some afterMonth
    let (day, _) ← takeNumber? 2 dayPart
    Date.ofParts? year month day

/-- The bytes that a text takes. -/
def encodedLength (chars : List Char) : Nat :=
  chars.foldl (fun length c => length + c.utf8Size) 0

/-- A date in ISO form. The length of the whole text, in bytes, has to be that of one of the forms;
what stands behind the digits of a shorter form is not looked at. -/
def Date.ofIso? (chars : List Char) : Option Date :=
  let length := encodedLength chars
  if length = 7 || length = 8 || length = 10 then readDatePart? length chars else none

/-- Where the date part of a timestamp ends. Dates by week may be followed by a digit or a dash, and
then the number of digits decides. -/
def datePartLength (chars : List Char) : Nat :=
  let isDigitAt := fun position => (chars[position]?.getD '-').isDigit
  let length := encodedLength chars
  if length = 7 then 7
  else if chars[4]? = some '-' then
    if chars[5]? = some 'W' then
      if chars[8]? = some '-' then
        if 10 < length && isDigitAt 10 then 8 else 10
      else 8
    else 10
  else if chars[4]? = some 'W' then
    let position := 7 + ((chars.drop 7).takeWhile Char.isDigit).length
    if position < 9 then position
    else if position % 2 = 0 then 7 else 8
  else 8

/-- The fraction of a second, of which six digits count, and the rest. -/
def takeFraction? (chars : List Char) : Option (Nat × List Char) := do
  let count := min chars.length 6
  let (value, rest) ← takeNumber? count chars
  let scaled := if count = 0 then value else value * Nat.pow 10 (6 - count)
  return (scaled, rest.dropWhile Char.isDigit)

/-- Whether a text is at its end; a null character counts as the end. -/
def atEnd : List Char → Bool
  | [] => true
  | c :: _ => c.toNat == 0

/-- The parts of a time of day: hours, minutes, seconds and microseconds, and whether the text holds
nothing else. -/
structure ClockParts where
  hour : Nat := 0
  minute : Nat := 0
  second : Nat := 0
  micro : Nat := 0
  complete : Bool := true

/-- A fraction that ends a time of day. -/
def readFraction? (parts : ClockParts) (chars : List Char) : Option ClockParts := do
  let (micro, rest) ← takeFraction? chars
  return { parts with micro := micro, complete := atEnd rest }

/-- A time of day from one of its parts on. `colons` tells whether colons stand between the parts,
and `rest` what follows the text. -/
def readClockFrom? (set : List (ClockParts → Nat → ClockParts)) (colons : Option Bool)
    (parts : ClockParts) (chars rest : List Char) : Option ClockParts :=
  match set with
  | [] => readFraction? parts chars
  | put :: others => do
    let (value, after) ← takeNumber? 2 chars
    let parts := put parts value
    match after with
    | [] => return { parts with complete := atEnd rest }
    | c :: after' =>
      let colons := colons.getD (c == ':')
      if after'.isEmpty && c.utf8Size == 1 then return { parts with complete := c.toNat == 0 }
      else if colons && c == ':' then
        if others.isEmpty then readFraction? parts after'
        else readClockFrom? others (some colons) parts after' rest
      else if c == '.' || c == ',' then readFraction? parts after'
      else if !colons then
        if others.isEmpty then readFraction? parts after
        else readClockFrom? others (some colons) parts after rest
      else none

/-- Hours, and after them minutes, seconds and a fraction where they are given. -/
def readClock? (chars rest : List Char) : Option ClockParts :=
  readClockFrom?
    [fun parts n => { parts with hour := n }, fun parts n => { parts with minute := n },
     fun parts n => { parts with second := n }] none {} chars rest

/-- The distance of a clock from universal time, after its sign. It is less than a day. -/
def readOffset? (negative : Bool) (chars : List Char) : Option Int := do
  let parts ← readClock? chars []
  let micros := ((parts.hour * 60 + parts.minute) * 60 + parts.second) * microsPerSecond + parts.micro
  if parts.complete && micros < microsPerDay then return withSign negative micros else none

def withClock? (date : Date) (parts : ClockParts) (offset : Option Int) : Option Timestamp :=
  let micros := ((parts.hour * 60 + parts.minute) * 60 + parts.second) * microsPerSecond + parts.micro
  if bound : micros < microsPerDay then
    if parts.hour < 24 && parts.minute < 60 && parts.second < 60 then
      some ⟨date, micros, bound, offset⟩
    else none
  else none

/-- Whether a character begins the distance from universal time. -/
def startsOffset (c : Char) : Bool :=
  c == '+' || c == '-' || c == 'Z'

/-- A time of day with an optional distance from universal time. -/
def readTimePart? (date : Date) (chars : List Char) : Option Timestamp := do
  let (clock, zone) := chars.span fun c => !startsOffset c
  let parts ← readClock? clock zone
  match zone with
  | [] => if parts.complete then withClock? date parts none else none
  | 'Z' :: rest => if atEnd rest then withClock? date parts (some 0) else none
  | sign :: rest => withClock? date parts (some (← readOffset? (sign == '-') rest))

/-- A timestamp in ISO form: a date, and unless the text ends there a separator and a time. -/
def Timestamp.ofIso? (chars : List Char) : Option Timestamp := do
  let length := datePartLength chars
  let date ← readDatePart? length chars
  match chars.drop length with
  | [] => return Timestamp.midnight date
  | _ :: clock => readTimePart? date clock

end Obligations.Calendar
