import Obligations.Calendar.Date
import Obligations.Number.Shortest

/-! # Timestamps and spans of time

A timestamp is a date with a time of day in microseconds and, where it is known, the distance of its
clock from universal time. A span of time is a whole number of microseconds whose days stay within a
bound. A shift can leave the years of the calendar, be longer than any span of time that is allowed,
or name a year that no machine word holds.
-/

namespace Obligations.Calendar

open Obligations.Number

/-- Why a shifted date does not exist. -/
inductive Fault where
  /-- A count of days leads out of the calendar. -/
  | outsideCalendar
  /-- A span has more days than are allowed. -/
  | spanTooLong (days : Int)
  /-- The days of a span do not fit a word of thirty-two bits. -/
  | daysTooWide
  /-- The calendar has no such year. -/
  | yearOutside (year : Int)
  /-- The year is above what thirty-two bits hold. -/
  | yearAboveWord
  /-- The year is below what thirty-two bits hold. -/
  | yearBelowWord
  /-- The year does not fit a word of sixty-four bits. -/
  | yearTooWide
deriving DecidableEq, Repr

namespace Fault

/-- Whether the failure is one of size and not of an ill-chosen year. -/
def isOverflow : Fault → Bool
  | .yearOutside _ => false
  | _ => true

/-- What the failure is reported as. -/
def message : Fault → String
  | .outsideCalendar => "date value out of range"
  | .spanTooLong days => "days=" ++ intText days ++ "; must have magnitude <= 999999999"
  | .daysTooWide => "Python int too large to convert to C int"
  | .yearOutside year => "year " ++ intText year ++ " is out of range"
  | .yearAboveWord => "signed integer is greater than maximum"
  | .yearBelowWord => "signed integer is less than minimum"
  | .yearTooWide => "Python int too large to convert to C long"

end Fault

def microsPerSecond : Nat := 1000000

def microsPerDay : Nat := 86400000000

/-- The first number that is too great for a signed word of thirty-two bits. -/
def wordBound : Int := 2147483648

/-- The first number that is too great for a signed word of sixty-four bits. -/
def longWordBound : Int := 9223372036854775808

/-- A span of time, in microseconds. -/
structure Span where
  micros : Int
deriving DecidableEq, Repr

namespace Span

/-- The greatest number of days of a span, in either direction. -/
def dayLimit : Int := 999999999

/-- The whole days of a span, rounded down. -/
def days (span : Span) : Int :=
  span.micros / (microsPerDay : Int)

/-- The whole seconds of a span beyond its whole days. -/
def seconds (span : Span) : Int :=
  span.micros % (microsPerDay : Int) / (microsPerSecond : Int)

/-- The span of a number of microseconds, where its days are within bounds. -/
def ofMicros (micros : Int) : Except Fault Span :=
  let span : Span := ⟨micros⟩
  if span.days < -wordBound || wordBound ≤ span.days then .error .daysTooWide
  else if span.days < -dayLimit || dayLimit < span.days then .error (.spanTooLong span.days)
  else .ok span

def ofDays (days : Int) : Except Fault Span :=
  ofMicros (days * microsPerDay)

def ofMinutes (minutes : Int) : Except Fault Span :=
  ofMicros (minutes * (60 * microsPerSecond : Nat))

end Span

/-- A date with a time of day. -/
structure Timestamp where
  date : Date
  /-- The microseconds since midnight. -/
  micros : Nat
  micros_lt : micros < microsPerDay
  /-- The microseconds by which the clock is ahead of universal time, where that is known. -/
  offset : Option Int
deriving DecidableEq

namespace Timestamp

/-- The beginning of a day. -/
def midnight (date : Date) : Timestamp :=
  ⟨date, 0, by decide, none⟩

instance : Inhabited Timestamp := ⟨midnight Date.first⟩

/-- A time of day on a date. -/
def atTime (date : Date) (hour minute second micro : Nat)
    (bound : ((hour * 60 + minute) * 60 + second) * microsPerSecond + micro < microsPerDay) :
    Timestamp :=
  ⟨date, ((hour * 60 + minute) * 60 + second) * microsPerSecond + micro, bound, none⟩

/-- The last second of a day. -/
def endOfDay (date : Date) : Timestamp :=
  atTime date 23 59 59 0 (by decide)

/-- The timestamp without what is known of its clock; the time of day stays. -/
def withoutOffset (stamp : Timestamp) : Timestamp :=
  { stamp with offset := none }

def hour (stamp : Timestamp) : Nat :=
  stamp.micros / (3600 * microsPerSecond)

def minute (stamp : Timestamp) : Nat :=
  stamp.micros / (60 * microsPerSecond) % 60

def second (stamp : Timestamp) : Nat :=
  stamp.micros / microsPerSecond % 60

def microsecond (stamp : Timestamp) : Nat :=
  stamp.micros % microsPerSecond

/-- The microseconds of the calendar up to a timestamp, whatever its clock. -/
def position (stamp : Timestamp) : Nat :=
  stamp.date.ordinal * microsPerDay + stamp.micros

def compare (left right : Timestamp) : Ordering :=
  Ord.compare left.position right.position

/-- The timestamp at a position, with a given clock, where the calendar has one. -/
def ofPosition? (position : Int) (offset : Option Int) : Option Timestamp :=
  (Date.ofOrdinal? (position / (microsPerDay : Int))).map fun date =>
    ⟨date, (position % (microsPerDay : Int)).toNat, by
      have low := Int.emod_nonneg position (b := (microsPerDay : Int)) (by decide)
      have high := Int.emod_lt_of_pos position (b := (microsPerDay : Int)) (by decide)
      omega, offset⟩

def add (stamp : Timestamp) (span : Span) : Except Fault Timestamp :=
  match ofPosition? (stamp.position + span.micros) stamp.offset with
  | some result => .ok result
  | none => .error .outsideCalendar

end Timestamp

namespace Date

/-- The date a span later, of which only the whole days count. -/
def addSpan (date : Date) (span : Span) : Except Fault Date :=
  match date.addDays? span.days with
  | some result => .ok result
  | none => .error .outsideCalendar

def addDays (date : Date) (days : Int) : Except Fault Date := do
  date.addSpan (← Span.ofDays days)

/-- The date in another month of any year. Days beyond the end of that month are taken back to its
last day; a year outside the calendar is told by how far outside it is. -/
def inMonth (date : Date) (year : Int) (month : Nat) : Except Fault Date :=
  if year < -longWordBound || longWordBound ≤ year then .error .yearTooWide
  else if wordBound ≤ year then .error .yearAboveWord
  else if year < -wordBound then .error .yearBelowWord
  else
    match ofParts? year.toNat month (min date.day (daysInMonth year.toNat month)) with
    | some result => .ok result
    | none => .error (.yearOutside year)

/-- The date a number of months later, on the same day of the month or the last one before it. -/
def addMonths (date : Date) (months : Int) : Except Fault Date :=
  let index := (date.month : Int) - 1 + months
  date.inMonth (date.year + index / 12) ((index % 12).toNat + 1)

end Date

namespace Timestamp

/-- The timestamp a number of months later, at the same time of day. -/
def addMonths (stamp : Timestamp) (months : Int) : Except Fault Timestamp := do
  let date ← stamp.date.addMonths months
  return { stamp with date := date }

end Timestamp

end Obligations.Calendar
