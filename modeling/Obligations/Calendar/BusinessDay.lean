import Obligations.Proofs.Calendar.Arithmetic

/-! # Business days and holidays

Weekends and the holidays that fall on the same day of every year. A date that has to be a business day,
or no holiday, moves on: from a weekend to the Monday behind it, and from a holiday day by day until
there is none.
-/

namespace Obligations.Calendar

namespace Date

/-- The holidays, by month and day. -/
def holidays : List (Nat × Nat) := [(1, 1), (7, 4), (11, 11), (12, 25)]

def isHoliday (date : Date) : Bool :=
  holidays.contains (date.month, date.day)

/-- Whether a day is neither a Saturday nor a Sunday. -/
def isBusinessDay (date : Date) : Bool :=
  date.weekday < 5

/-- The day itself, or the Monday behind its weekend. -/
def nextBusinessDay (date : Date) : Except Fault Date :=
  if date.weekday = 5 then date.addDays 2
  else if date.weekday = 6 then date.addDays 1
  else .ok date

/-- The day itself, or the Monday behind its weekend where only business days count. -/
def settle (businessDaysOnly : Bool) (date : Date) : Except Fault Date :=
  if businessDaysOnly then date.nextBusinessDay else .ok date

theorem ordinal_le_of_settle {businessDaysOnly : Bool} {day settled : Date}
    (settles : day.settle businessDaysOnly = .ok settled) : day.ordinal ≤ settled.ordinal := by
  rw [settle, nextBusinessDay] at settles
  split at settles
  · split at settles
    · have counted := ordinal_addDays settles
      omega
    · split at settles
      · have counted := ordinal_addDays settles
        omega
      · cases settles
        exact Nat.le_refl _
  · cases settles
    exact Nat.le_refl _

-- the equations of the matches are only read where the recursion is justified
set_option linter.unusedVariables false in
/-- The way on past holidays. Each step leaves a holiday for the next day, and the weekend behind it as
well where only business days count. -/
def passHolidays (businessDaysOnly : Bool) (day : Date) : Except Fault Date :=
  if day.isHoliday then
    match moved : day.addDays 1 with
    | .error fault => .error fault
    | .ok next =>
      match settles : next.settle businessDaysOnly with
      | .error fault => .error fault
      | .ok settled => passHolidays businessDaysOnly settled
  else .ok day
termination_by lastOrdinal - day.ordinal
decreasing_by
  have counted := ordinal_addDays moved
  have onward := ordinal_le_of_settle settles
  have bound := ordinal_le_last settled
  omega

/-- The day itself, or the first day behind it that is no holiday. Only business days count where
that is asked for. -/
def nextWorkingDay (businessDaysOnly excludeHolidays : Bool) (date : Date) : Except Fault Date := do
  let day ← date.settle businessDaysOnly
  if excludeHolidays then day.passHolidays businessDaysOnly
  else return day

/-- Whether a day is from today to a number of days later. -/
def isWithinDays (today date : Date) (days : Int) : Bool :=
  decide (0 ≤ today.daysUntil date ∧ today.daysUntil date ≤ days)

end Date

end Obligations.Calendar
