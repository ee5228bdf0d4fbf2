import Obligations.Failure
import Obligations.Offset.Basic

/-! # Values in the calendar

Calendar operations on values: shifts of dates and timestamps, and the days between them.
-/

namespace Obligations

open Obligations.Calendar

namespace Value

/-- The date of a timestamp; other values stay. -/
def withoutTime : Value → Value
  | .stamp moment => .date moment.date
  | value => value

/-- The date or timestamp that an offset leads to. -/
def shifted (value : Value) (offset : Offset) : Outcome Value :=
  match value with
  | .date d => .ofCalendar ((offset.applyToDate d).map .date)
  | .stamp moment => .ofCalendar ((offset.applyToTimestamp moment).map .stamp)
  | _ => if offset.months?.isSome then .mishap .notRecord else .mishap .unusable

/-- The date or timestamp a number of months later. -/
def addMonths (value : Value) (months : Int) : Outcome Value :=
  value.shifted ⟨months, .month⟩

/-- The whole days from one value to another, which have to be of one kind. -/
def daysUntil (start finish : Value) : Outcome Int :=
  match start, finish with
  | .date a, .date b => .ok (a.daysUntil b)
  | .stamp a, .stamp b =>
    match a.offset, b.offset with
    | some ahead, some behind =>
      .ok (((b.position : Int) - behind - (a.position - ahead)) / (microsPerDay : Int))
    | none, none => .ok (((b.position : Int) - a.position) / (microsPerDay : Int))
    | _, _ => .mishap .unusable
  | _, _ => .mishap .unusable

end Value

end Obligations
