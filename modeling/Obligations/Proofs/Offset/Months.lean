import Obligations.Offset.Basic
import Obligations.Proofs.Calendar.Arithmetic

/-! # Moves by months and years

A move by months keeps the order of days. Two moves in a row lead at most as far as the move by all of their months,
and there exactly if the month between has the day that they start from; so a move back leads to the start exactly if
the day was not lost on the way. Years are moves by twelve times as many months.
-/

namespace Obligations

open Obligations.Calendar

namespace Calendar.Date

variable {date middle later : Date} {months more : Int}

/-- Whether the month of a date has the day of another one. -/
def HasDayOf (month date : Date) : Prop :=
  date.day ≤ daysInMonth month.year month.month

/-- Moves by the same number of months keep the order of days. -/
theorem addMonths_le {behind laterBehind : Date} (ordered : date ≤ behind) (moved : date.addMonths months = .ok later)
    (movedBehind : behind.addMonths months = .ok laterBehind) : later ≤ laterBehind := by
  obtain ⟨counted, day⟩ := addMonths_eq_ok_iff.mp moved
  obtain ⟨countedBehind, dayBehind⟩ := addMonths_eq_ok_iff.mp movedBehind
  rw [le_iff] at ordered ⊢
  rcases ordered with earlier | ⟨sameMonth, sooner⟩
  · left
    omega
  · have same : later.monthCount = laterBehind.monthCount := by omega
    rw [daysInMonth_of_monthCount same] at day
    exact Or.inr ⟨same, by omega⟩

section Twice

variable (moved : date.addMonths months = .ok middle)

include moved

theorem exists_addMonths_add_iff :
    (∃ later, middle.addMonths more = .ok later) ↔ ∃ direct, date.addMonths (months + more) = .ok direct := by
  have counted := (addMonths_eq_ok_iff.mp moved).1
  rw [exists_addMonths_iff, exists_addMonths_iff, counted, Int.add_assoc]

variable {direct : Date} (movedOn : middle.addMonths more = .ok later)
  (atOnce : date.addMonths (months + more) = .ok direct)

include movedOn atOnce

/-- Two moves lead into the month of the move by all of their months. On the way the day may have been lost. -/
theorem monthCount_addMonths_add : later.monthCount = direct.monthCount ∧
    later.day = min (daysInMonth middle.year middle.month) direct.day := by
  obtain ⟨counted, day⟩ := addMonths_eq_ok_iff.mp moved
  obtain ⟨countedOn, dayOn⟩ := addMonths_eq_ok_iff.mp movedOn
  obtain ⟨countedAtOnce, dayAtOnce⟩ := addMonths_eq_ok_iff.mp atOnce
  have same : later.monthCount = direct.monthCount := by omega
  rw [← daysInMonth_of_monthCount same] at dayAtOnce
  exact ⟨same, by omega⟩

theorem addMonths_add_le : later ≤ direct := by
  obtain ⟨same, day⟩ := monthCount_addMonths_add moved movedOn atOnce
  exact le_iff.mpr (.inr ⟨same, by omega⟩)

theorem addMonths_add_eq (kept : middle.HasDayOf date) : later = direct := by
  obtain ⟨same, day⟩ := monthCount_addMonths_add moved movedOn atOnce
  have short := (addMonths_eq_ok_iff.mp atOnce).2
  rw [HasDayOf] at kept
  exact eq_of_monthCount same (by omega)

end Twice

theorem addMonths_zero (date : Date) : date.addMonths 0 = .ok date := by
  obtain ⟨_, _, _, dayHigh⟩ := date.valid
  exact addMonths_eq_ok_iff.mpr ⟨by omega, (Nat.min_eq_left dayHigh).symm⟩

/-- There is a way back from every month, which leads to the start or to a day before it. -/
theorem exists_addMonths_neg (moved : date.addMonths months = .ok middle) :
    ∃ back, middle.addMonths (-months) = .ok back ∧ back ≤ date ∧ (back = date ↔ middle.HasDayOf date) := by
  have atOnce : date.addMonths (months + -months) = .ok date := by rw [Int.add_right_neg, addMonths_zero]
  obtain ⟨back, movedBack⟩ := (exists_addMonths_add_iff moved).mpr ⟨date, atOnce⟩
  refine ⟨back, movedBack, addMonths_add_le moved movedBack atOnce, ?_, addMonths_add_eq moved movedBack atOnce⟩
  rintro rfl
  obtain ⟨_, day⟩ := monthCount_addMonths_add moved movedBack atOnce
  rw [HasDayOf]
  omega

end Calendar.Date

namespace Offset

/-- An offset of years moves along the calendar by twelve times as many months. -/
theorem months?_year (years : Int) : (⟨years, .year⟩ : Offset).months? = some (12 * years) := by
  rw [months?, Int.mul_comm]

theorem applyToDate_year (years : Int) (date : Date) :
    (⟨years, .year⟩ : Offset).applyToDate date = date.addMonths (12 * years) := by
  rw [applyToDate, months?_year]

theorem applyToTimestamp_year (years : Int) (stamp : Timestamp) :
    (⟨years, .year⟩ : Offset).applyToTimestamp stamp = stamp.addMonths (12 * years) := by
  rw [applyToTimestamp, months?_year]

end Offset

namespace Calendar.Date

/-- A move by months succeeds exactly if the calendar has the year of the month that it leads to, and then leads to the
day that the date has, or to the last day of that month before it. So it keeps the order of days; a second move leads
at most to where the move by all of the months leads, and exactly there if the month between has the day of the date;
and the move back, which is always possible, leads to the date or before it, and to the date exactly if the month
between has its day. Years are moves by twelve times as many months, for dates and for timestamps. -/
theorem addMonths_laws (date : Date) (months : Int) :
    ((∃ later, date.addMonths months = .ok later) ↔
      1 ≤ (date.monthCount + months) / 12 ∧ (date.monthCount + months) / 12 ≤ lastYear) ∧
    (∀ later, date.addMonths months = .ok later ↔
      (later.monthCount : Int) = date.monthCount + months ∧
        later.day = min date.day (daysInMonth later.year later.month)) ∧
    (∀ middle, date.addMonths months = .ok middle →
      (∀ behind middleBehind, date ≤ behind → behind.addMonths months = .ok middleBehind → middle ≤ middleBehind) ∧
      (∀ more, ((∃ later, middle.addMonths more = .ok later) ↔ ∃ direct, date.addMonths (months + more) = .ok direct) ∧
        ∀ later direct, middle.addMonths more = .ok later → date.addMonths (months + more) = .ok direct →
          later ≤ direct ∧ (middle.HasDayOf date → later = direct)) ∧
      ∃ back, middle.addMonths (-months) = .ok back ∧ back ≤ date ∧ (back = date ↔ middle.HasDayOf date)) ∧
    (⟨months, .year⟩ : Offset).applyToDate date = (⟨12 * months, .month⟩ : Offset).applyToDate date ∧
    ∀ stamp, (⟨months, .year⟩ : Offset).applyToTimestamp stamp =
      (⟨12 * months, .month⟩ : Offset).applyToTimestamp stamp := by
  refine ⟨exists_addMonths_iff, fun later => addMonths_eq_ok_iff, fun middle moved => ⟨?_, ?_, ?_⟩, ?_, ?_⟩
  · exact fun behind middleBehind ordered movedBehind => addMonths_le ordered moved movedBehind
  · intro more
    refine ⟨exists_addMonths_add_iff moved, fun later direct movedOn atOnce => ?_⟩
    exact ⟨addMonths_add_le moved movedOn atOnce, addMonths_add_eq moved movedOn atOnce⟩
  · exact exists_addMonths_neg moved
  · exact Offset.applyToDate_year months date
  · exact Offset.applyToTimestamp_year months

/-- The last day of January in a leap year. -/
def lastOfJanuary : Date := ⟨2024, 1, 31, by decide⟩

/-- The last day of the February behind it. -/
def lastOfFebruary : Date := ⟨2024, 2, 29, by decide⟩

/-- A month leads from the last day of January to that of February, a second one to the same day of March, which both
months at once pass, and the way back ends two days before the start. -/
theorem addMonths_laws_lastOfJanuary :
    lastOfJanuary.addMonths 1 = .ok lastOfFebruary ∧
      lastOfFebruary.addMonths 1 = .ok ⟨2024, 3, 29, by decide⟩ ∧
      lastOfJanuary.addMonths (1 + 1) = .ok ⟨2024, 3, 31, by decide⟩ ∧
      (⟨2024, 3, 29, by decide⟩ : Date) ≤ ⟨2024, 3, 31, by decide⟩ ∧
      ¬ lastOfFebruary.HasDayOf lastOfJanuary ∧
      ∃ back, lastOfFebruary.addMonths (-1) = .ok back ∧ back ≤ lastOfJanuary ∧ back ≠ lastOfJanuary := by
  have moved : lastOfJanuary.addMonths 1 = .ok lastOfFebruary := rfl
  have movedOn : lastOfFebruary.addMonths 1 = .ok ⟨2024, 3, 29, by decide⟩ := rfl
  have atOnce : lastOfJanuary.addMonths (1 + 1) = .ok ⟨2024, 3, 31, by decide⟩ := rfl
  have lost : ¬ lastOfFebruary.HasDayOf lastOfJanuary := Nat.not_le.mpr (by decide)
  obtain ⟨-, -, laws, -⟩ := addMonths_laws lastOfJanuary 1
  obtain ⟨-, twice, back, movedBack, early, kept⟩ := laws lastOfFebruary moved
  exact ⟨moved, movedOn, atOnce, ((twice 1).2 _ _ movedOn atOnce).1, lost, back, movedBack, early,
    fun same => lost (kept.mp same)⟩

end Calendar.Date

end Obligations
