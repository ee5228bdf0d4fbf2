import Obligations.Calendar.Timestamp

/-! # Offsets

A signed amount of one unit of time. Months and years move along the calendar and keep the day of
the month where they can; the other units have a fixed length. Where months and years have to have a
length too, a month has thirty days and a year three hundred and sixty-five.
-/

namespace Obligations

open Obligations.Calendar Obligations.Number

/-- The units that an offset counts. -/
inductive TimeUnit where
  | minute
  | hour
  | day
  | week
  | month
  | year
deriving DecidableEq, Repr

namespace TimeUnit

def all : List TimeUnit := [.minute, .hour, .day, .week, .month, .year]

def name : TimeUnit → String
  | .minute => "minute"
  | .hour => "hour"
  | .day => "day"
  | .week => "week"
  | .month => "month"
  | .year => "year"

def ofName? (name : String) : Option TimeUnit :=
  all.find? (·.name == name)

end TimeUnit

/-- A signed amount of one unit of time. -/
structure Offset where
  amount : Int
  unit : TimeUnit
deriving DecidableEq, Repr

namespace Offset

/-- The amount and the unit, with an `s` unless the amount is one in either direction. -/
def text (offset : Offset) : String :=
  intText offset.amount ++ offset.unit.name ++ (if offset.amount.natAbs = 1 then "" else "s")

/-- The text of an offset, if its amount can be printed. -/
def text? (offset : Offset) : Option String :=
  if isPrintable offset.amount then some offset.text else none

/-- The length of an offset, with months of thirty days and years of three hundred and sixty-five. -/
def toSpan (offset : Offset) : Except Fault Span :=
  match offset.unit with
  | .minute => Span.ofMinutes offset.amount
  | .hour => Span.ofMinutes (60 * offset.amount)
  | .day => Span.ofDays offset.amount
  | .week => Span.ofDays (7 * offset.amount)
  | .month => Span.ofDays (30 * offset.amount)
  | .year => Span.ofDays (365 * offset.amount)

/-- The months that an offset moves along the calendar by, if it does. -/
def months? (offset : Offset) : Option Int :=
  match offset.unit with
  | .month => some offset.amount
  | .year => some (offset.amount * 12)
  | _ => none

def applyToDate (offset : Offset) (date : Date) : Except Fault Date :=
  match offset.months? with
  | some months => date.addMonths months
  | none => do date.addSpan (← offset.toSpan)

def applyToTimestamp (offset : Offset) (stamp : Timestamp) : Except Fault Timestamp :=
  match offset.months? with
  | some months => stamp.addMonths months
  | none => do stamp.add (← offset.toSpan)

end Offset

end Obligations
