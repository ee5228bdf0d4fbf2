import Mathlib.Order.Bounds.Defs
import Obligations.DueDate.Calculation
import Obligations.Proofs.Calendar.Arithmetic

/-! # Beginnings of periods

A cadence divides the months into periods of the same length, the first of which begins every year. A date
that recurs by a cadence is the first day of the next period, on its own first day as on all others. Only
behind the last beginning in the calendar there is no such day.
-/

namespace Obligations

open Obligations.Calendar

namespace Cadence

/-- The months that the periods of a cadence begin with. -/
def firstMonths : Cadence → List Nat
  | .monthly => [1, 2, 3, 4, 5, 6, 7, 8, 9, 10, 11, 12]
  | .quarterly => [1, 4, 7, 10]
  | .semiAnnually => [1, 7]
  | .yearly => [1]

/-- Whether a period of a cadence begins on a day. -/
structure Begins (cadence : Cadence) (day : Date) : Prop where
  first : day.day = 1
  month : day.month ∈ cadence.firstMonths

/-- The days behind a day on which a period begins. -/
def beginningsAfter (cadence : Cadence) (today : Date) : Set Date :=
  {day | today < day ∧ cadence.Begins day}

/-- The count of the month that the next period begins with. -/
def nextMonthCount (cadence : Cadence) (today : Date) : Nat :=
  (today.monthCount / cadence.months + 1) * cadence.months

variable {cadence : Cadence} {today later : Date}

/-- A year has a whole number of periods. -/
theorem twelve_mod_months (cadence : Cadence) : 12 % cadence.months = 0 := by
  cases cadence <;> rfl

theorem mem_firstMonths_iff {month : Nat} (low : 1 ≤ month) (high : month ≤ 12) :
    month ∈ cadence.firstMonths ↔ (month - 1) % cadence.months = 0 := by
  have each : ∀ n < 13, 1 ≤ n → (n ∈ cadence.firstMonths ↔ (n - 1) % cadence.months = 0) := by
    cases cadence <;> decide
  exact each month (Nat.lt_succ_of_le high) low

/-- Periods begin with the months whose count is a multiple of their length. -/
theorem begins_iff {day : Date} :
    cadence.Begins day ↔ day.day = 1 ∧ day.monthCount % cadence.months = 0 := by
  obtain ⟨_, ⟨low, high⟩, _⟩ := day.valid
  have month : day.month ∈ cadence.firstMonths ↔ day.monthCount % cadence.months = 0 := by
    rw [mem_firstMonths_iff low high, Date.monthCount, Nat.add_mod, Nat.mul_mod, cadence.twelve_mod_months,
      Nat.mul_zero, Nat.zero_mod, Nat.zero_add, Nat.mod_mod]
  rw [← month]
  exact ⟨fun begins => ⟨begins.first, begins.month⟩, fun both => ⟨both.1, both.2⟩⟩

/-- The next period begins behind the month of today, and no period does in between. -/
theorem nextMonthCount_le_iff {count : Nat} (begins : count % cadence.months = 0) :
    cadence.nextMonthCount today ≤ count ↔ today.monthCount < count := by
  rw [nextMonthCount]
  cases cadence <;> simp only [months] at begins ⊢ <;> omega

theorem nextMonthCount_mod : cadence.nextMonthCount today % cadence.months = 0 :=
  Nat.mul_mod_left _ _

theorem monthCount_monthStart_add :
    (today.monthStart.monthCount : Int) + ((cadence.firstMonth today.month : Int) - today.month + cadence.months) =
      cadence.nextMonthCount today := by
  obtain ⟨_, ⟨low, high⟩, _⟩ := today.valid
  change (today.monthCount : Int) + _ = _
  rw [nextMonthCount, firstMonth, Date.monthCount]
  cases cadence <;> simp only [months] <;> omega

/-- A date that recurs is the first day of the month that the next period begins with. -/
theorem next_eq_ok_iff :
    cadence.next today = .ok later ↔ later.day = 1 ∧ later.monthCount = cadence.nextMonthCount today := by
  have first : min today.monthStart.day (daysInMonth later.year later.month) = 1 :=
    Nat.min_eq_left (daysInMonth_pos later.year later.month)
  rw [next, Date.addMonths_eq_ok_iff, monthCount_monthStart_add, first]
  omega

/-- The first day of the next period is the least day behind today on which a period begins. -/
theorem isLeast_of_next (recurs : cadence.next today = .ok later) :
    IsLeast (cadence.beginningsAfter today) later := by
  obtain ⟨first, counted⟩ := next_eq_ok_iff.mp recurs
  have begins : cadence.Begins later := begins_iff.mpr ⟨first, counted ▸ nextMonthCount_mod⟩
  refine ⟨⟨?_, begins⟩, fun day ⟨behind, dayBegins⟩ => ?_⟩
  · have month : today.monthCount < later.monthCount :=
      (nextMonthCount_le_iff (begins_iff.mp begins).2).mp (Nat.le_of_eq counted.symm)
    exact Date.lt_iff.mpr (Or.inl month)
  · obtain ⟨dayFirst, dayMonth⟩ := begins_iff.mp dayBegins
    have dayLow := day.valid.2.2.1
    have todayLow := today.valid.2.2.1
    -- a first day comes behind today only in a later month
    have month : today.monthCount < day.monthCount := by
      rw [Date.lt_iff] at behind
      omega
    have counts := (nextMonthCount_le_iff dayMonth).mpr month
    apply Nat.not_lt.mp
    change ¬ day < later
    rw [Date.lt_iff]
    omega

/-- There is a next period exactly if one begins on a day of the calendar behind today. -/
theorem exists_next_iff :
    (∃ later, cadence.next today = .ok later) ↔ (cadence.beginningsAfter today).Nonempty := by
  constructor
  · rintro ⟨later, recurs⟩
    exact ⟨later, (isLeast_of_next recurs).1⟩
  · rintro ⟨day, behind, begins⟩
    obtain ⟨dayFirst, dayMonth⟩ := begins_iff.mp begins
    obtain ⟨⟨yearLow, yearHigh⟩, ⟨monthLow, monthHigh⟩, _⟩ := day.valid
    obtain ⟨⟨todayYear, _⟩, _, todayLow, _⟩ := today.valid
    have month : today.monthCount < day.monthCount := by
      rw [Date.lt_iff] at behind
      omega
    have counts := (nextMonthCount_le_iff dayMonth).mpr month
    have after : today.monthCount < cadence.nextMonthCount today :=
      (nextMonthCount_le_iff nextMonthCount_mod).mp (Nat.le_refl _)
    rw [next, Date.exists_addMonths_iff, monthCount_monthStart_add]
    rw [Date.monthCount] at counts after
    omega

/-- Where no period begins any more, the next one would begin with the year behind the last one. -/
theorem next_eq_error (ended : ¬ (cadence.beginningsAfter today).Nonempty) :
    cadence.next today = .error (.yearOutside (lastYear + 1)) := by
  have nowhere := mt exists_next_iff.mp ended
  obtain ⟨⟨yearLow, yearHigh⟩, ⟨monthLow, monthHigh⟩, _⟩ := today.valid
  rw [next, Date.exists_addMonths_iff, monthCount_monthStart_add, nextMonthCount, Date.monthCount] at nowhere
  have year : (today.year : Int) + ((today.month : Int) - 1 +
      ((cadence.firstMonth today.month : Int) - today.month + cadence.months)) / 12 = lastYear + 1 := by
    rw [firstMonth]
    cases cadence <;> simp only [months] at nowhere ⊢ <;> omega
  change today.monthStart.inMonth ((today.year : Int) + ((today.month : Int) - 1 +
    ((cadence.firstMonth today.month : Int) - today.month + cadence.months)) / 12) _ = _
  rw [year]
  exact Date.inMonth_behindLastYear _ _

theorem exists_next (cadence : Cadence) {today : Date} (contemporary : today.IsContemporary) :
    ∃ later, cadence.next today = .ok later := by
  obtain ⟨_, ⟨monthLow, monthHigh⟩, _⟩ := today.valid
  obtain ⟨_, yearHigh⟩ := contemporary
  let start : Date := ⟨2201, 1, 1, by decide⟩
  have behind : today.monthCount < start.monthCount := by
    change today.year * 12 + (today.month - 1) < 2201 * 12 + 0
    omega
  apply exists_next_iff.mpr
  exact ⟨start, Date.lt_iff.mpr (Or.inl behind), rfl, by cases cadence <;> decide⟩

/-- The empty text is not the name of a cadence. -/
theorem isEmpty_of_ofName? {name : String} (named : ofName? name = some cadence) : name.isEmpty = false := by
  have unnamed : ofName? "" = none := by decide
  rw [Bool.eq_false_iff]
  intro empty
  rw [String.isEmpty_iff.mp empty, unnamed] at named
  cases named

end Cadence

namespace DuePlan

section Recurring

variable {plan : DuePlan} {name : String} {cadence : Cadence}
  (recurs : plan.calculation = some name) (named : Cadence.ofName? name = some cadence)

include recurs named

theorem recurringDate_eq (today : Date) :
    plan.recurringDate today = Due.ofCalendar (cadence.next today) := by
  rw [recurringDate, recurs]
  simp only [Cadence.isEmpty_of_ofName? named, Bool.false_eq_true, if_false, named]

/-- A plan that recurs by a cadence comes to the first day behind today on which a period begins. It fails
only where the calendar has no such day. -/
theorem unboundedDate_of_recurring (strategy : plan.strategy = .recurring) (context : Context) (today : Date) :
    (∃ due, IsLeast (cadence.beginningsAfter today) due ∧ plan.unboundedDate context today = .ok due ∧
      plan.dueDate context today = .ok (plan.clamp due)) ∨
    ¬ (cadence.beginningsAfter today).Nonempty ∧ plan.dueDate context today =
      .fail (.of .dueDate "Date calculation failed: year 10000 is out of range"
        { dateType := some "recurring" }) := by
  have same : plan.unboundedDate context today = Due.ofCalendar (cadence.next today) := by
    rw [unboundedDate, strategy]
    exact recurringDate_eq recurs named today
  rw [dueDate, same, strategy]
  cases came : cadence.next today with
  | ok due => exact Or.inl ⟨due, Cadence.isLeast_of_next came, rfl, rfl⟩
  | error fault =>
    have ended : ¬ (cadence.beginningsAfter today).Nonempty := fun begins => by
      obtain ⟨later, found⟩ := Cadence.exists_next_iff.mpr begins
      cases came.symm.trans found
    cases came.symm.trans (Cadence.next_eq_error ended)
    exact Or.inr ⟨ended, rfl⟩

end Recurring

/-- A plan for the beginning of every half of a year, spelt in its own way. -/
def everyHalf : DuePlan where
  strategy := .recurring
  calculation := some " Semi_annually "

theorem unboundedDate_everyHalf_lastYear :
    IsLeast (Cadence.semiAnnually.beginningsAfter ⟨9999, 6, 30, by decide⟩) ⟨9999, 7, 1, by decide⟩ ∧
      everyHalf.unboundedDate { subjectId := "s1" } ⟨9999, 6, 30, by decide⟩ =
        .ok ⟨9999, 7, 1, by decide⟩ := by
  have recurs : everyHalf.calculation = some " Semi_annually " := rfl
  have named : Cadence.ofName? " Semi_annually " = some .semiAnnually := by decide
  have comes : everyHalf.unboundedDate { subjectId := "s1" } ⟨9999, 6, 30, by decide⟩ =
      .ok ⟨9999, 7, 1, by decide⟩ := by rfl
  rcases unboundedDate_of_recurring recurs named rfl { subjectId := "s1" } ⟨9999, 6, 30, by decide⟩ with
    ⟨due, least, found, _⟩ | ⟨ended, _⟩
  · cases comes.symm.trans found
    exact ⟨least, comes⟩
  · exact absurd ⟨⟨9999, 7, 1, by decide⟩, by decide, rfl, by decide⟩ ended

end DuePlan

end Obligations
