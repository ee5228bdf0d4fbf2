import Obligations.Calendar.Timestamp
import Obligations.Proofs.Calendar.Order

/-! # Moving along the calendar

A number of months leads to the month that comes so many months later, and there to the same day or the
last one before it. The only months that are not reached are those that the calendar does not have. A number
of days leads from a day to another one exactly if the calendar has a day with that ordinal. From the days of a
few centuries all the moves that due dates are made of stay within the calendar.
-/

namespace Obligations.Calendar

namespace Date

/-- A date in another month is on its own day of that month or on the last day there. -/
theorem inMonth_eq_ok_iff {date later : Date} {year : Int} {month : Nat} :
    date.inMonth year month = .ok later ↔
      (later.year : Int) = year ∧ later.month = month ∧
        later.day = min date.day (daysInMonth later.year later.month) := by
  obtain ⟨⟨yearLow, yearHigh⟩, _⟩ := later.valid
  rw [lastYear] at yearHigh
  rw [inMonth, wordBound, longWordBound]
  constructor
  · intro moved
    split at moved
    · cases moved
    split at moved
    · cases moved
    split at moved
    · cases moved
    split at moved
    next found =>
      cases moved
      obtain ⟨sameYear, sameMonth, sameDay⟩ := ofParts?_eq_some_iff.mp found
      refine ⟨by omega, sameMonth, ?_⟩
      rw [sameYear, sameMonth, sameDay]
    next => cases moved
  · rintro ⟨rfl, rfl, sameDay⟩
    have found : ofParts? later.year later.month
        (min date.day (daysInMonth later.year later.month)) = some later :=
      ofParts?_eq_some_iff.mpr ⟨rfl, rfl, sameDay⟩
    rw [if_neg (by simp only [Bool.or_eq_true, decide_eq_true_eq]; omega), if_neg (by omega),
      if_neg (by omega), Int.toNat_natCast, found]

/-- The year behind the last one is told as outside the calendar. -/
theorem inMonth_behindLastYear (date : Date) (month : Nat) :
    date.inMonth (lastYear + 1) month = .error (.yearOutside (lastYear + 1)) := by
  have none : ofParts? (lastYear + 1) month (min date.day (daysInMonth (lastYear + 1) month)) = none :=
    dif_neg fun valid => absurd valid.1.2 (by decide)
  rw [inMonth, if_neg (by decide), if_neg (by decide), if_neg (by decide),
    show ((lastYear : Int) + 1).toNat = lastYear + 1 from rfl, none]

/-- Months lead to the month so many months later. -/
theorem addMonths_eq_ok_iff {date later : Date} {months : Int} :
    date.addMonths months = .ok later ↔
      (later.monthCount : Int) = date.monthCount + months ∧
        later.day = min date.day (daysInMonth later.year later.month) := by
  obtain ⟨_, ⟨monthLow, monthHigh⟩, _⟩ := date.valid
  obtain ⟨_, ⟨laterLow, laterHigh⟩, _⟩ := later.valid
  rw [addMonths, inMonth_eq_ok_iff, monthCount, monthCount]
  constructor
  · rintro ⟨year, month, day⟩
    exact ⟨by omega, day⟩
  · rintro ⟨counted, day⟩
    exact ⟨by omega, by omega, day⟩

/-- Months lead somewhere exactly if the calendar has the year of that month. -/
theorem exists_addMonths_iff {date : Date} {months : Int} :
    (∃ later, date.addMonths months = .ok later) ↔
      1 ≤ (date.monthCount + months) / 12 ∧ (date.monthCount + months) / 12 ≤ lastYear := by
  simp only [addMonths_eq_ok_iff]
  constructor
  · rintro ⟨later, counted, _⟩
    obtain ⟨yearBounds, ⟨monthLow, monthHigh⟩, _⟩ := later.valid
    rw [← counted, monthCount]
    omega
  · rintro ⟨low, high⟩
    obtain ⟨count, same⟩ := Int.eq_ofNat_of_zero_le (show 0 ≤ date.monthCount + months by omega)
    rw [same] at low high ⊢
    have days := daysInMonth_pos (count / 12) (count % 12 + 1)
    obtain ⟨_, _, dayLow, _⟩ := date.valid
    let later : Date := ⟨count / 12, count % 12 + 1, min date.day (daysInMonth (count / 12) (count % 12 + 1)),
      ⟨by omega, by omega⟩, ⟨by omega, by omega⟩, ⟨by omega, Nat.min_le_right _ _⟩⟩
    have counted : later.monthCount = count := by
      change count / 12 * 12 + (count % 12 + 1 - 1) = count
      omega
    exact ⟨later, congrArg Int.ofNat counted, rfl⟩

end Date

/-- A span of days has these days, as long as there are not too many of them. -/
theorem Span.ofDays_eq (days : Int) :
    Span.ofDays days =
      if days < -wordBound ∨ wordBound ≤ days then .error .daysTooWide
      else if days < -dayLimit ∨ dayLimit < days then .error (.spanTooLong days)
      else .ok ⟨days * microsPerDay⟩ := by
  have whole : days * (microsPerDay : Int) / (microsPerDay : Int) = days :=
    Int.mul_ediv_cancel days (by decide)
  simp only [Span.ofDays, Span.ofMicros, Span.days, whole, Bool.or_eq_true, decide_eq_true_eq]

namespace Date

theorem ordinal_of_ofOrdinal? {ordinal : Int} {date : Date} (found : ofOrdinal? ordinal = some date) :
    (date.ordinal : Int) = ordinal := by
  have range : 1 ≤ ordinal ∧ ordinal ≤ lastOrdinal := by
    by_cases inside : 1 ≤ ordinal ∧ ordinal ≤ lastOrdinal
    · exact inside
    · rw [ofOrdinal?, if_neg inside] at found
      cases found
  obtain ⟨count, rfl⟩ := Int.eq_ofNat_of_zero_le (show 0 ≤ ordinal by omega)
  obtain ⟨other, same, counted⟩ := exists_ofOrdinal? (show 1 ≤ count by omega) (by omega)
  obtain rfl : date = other := Option.some.inj (found.symm.trans same)
  rw [counted]

/-- Days lead to a day with the ordinal that many days later. -/
theorem addDays_eq_ok_iff {date later : Date} {days : Int} :
    date.addDays days = .ok later ↔ ofOrdinal? (date.ordinal + days) = some later := by
  have low := one_le_ordinal date
  have high := ordinal_le_last date
  rw [addDays, Span.ofDays_eq]
  split
  next tooWide =>
    have outside : ¬ (1 ≤ (date.ordinal : Int) + days ∧ (date.ordinal : Int) + days ≤ lastOrdinal) := by
      rw [lastOrdinal] at high ⊢
      rw [wordBound] at tooWide
      omega
    rw [ofOrdinal?, if_neg outside]
    constructor <;> intro absurd <;> cases absurd
  next =>
    split
    next tooLong =>
      have outside :
          ¬ (1 ≤ (date.ordinal : Int) + days ∧ (date.ordinal : Int) + days ≤ lastOrdinal) := by
        rw [lastOrdinal] at high ⊢
        rw [Span.dayLimit] at tooLong
        omega
      rw [ofOrdinal?, if_neg outside]
      constructor <;> intro absurd <;> cases absurd
    next =>
      have whole : Span.days ⟨days * microsPerDay⟩ = days := Int.mul_ediv_cancel days (by decide)
      change date.addSpan ⟨days * microsPerDay⟩ = .ok later ↔ _
      rw [addSpan, whole, addDays?]
      cases ofOrdinal? (date.ordinal + days) with
      | none => constructor <;> intro absurd <;> cases absurd
      | some found => simp

/-- Days lead somewhere exactly if the calendar has that day. -/
theorem exists_addDays_iff {date : Date} {days : Int} :
    (∃ later, date.addDays days = .ok later) ↔
      1 ≤ date.ordinal + days ∧ date.ordinal + days ≤ lastOrdinal := by
  simp only [addDays_eq_ok_iff]
  constructor
  · rintro ⟨later, found⟩
    by_cases inside : 1 ≤ (date.ordinal : Int) + days ∧ (date.ordinal : Int) + days ≤ lastOrdinal
    · exact inside
    · rw [ofOrdinal?, if_neg inside] at found
      cases found
  · rintro ⟨low, high⟩
    obtain ⟨count, same⟩ := Int.eq_ofNat_of_zero_le (show 0 ≤ date.ordinal + days by omega)
    obtain ⟨later, found, _⟩ := exists_ofOrdinal? (show 1 ≤ count by omega) (by omega)
    exact ⟨later, same ▸ found⟩

theorem ordinal_addDays {date later : Date} {days : Int} (moved : date.addDays days = .ok later) :
    (later.ordinal : Int) = date.ordinal + days :=
  ordinal_of_ofOrdinal? (addDays_eq_ok_iff.mp moved)

/-- Whether a day is of the years 1900 to 2200. -/
def IsContemporary (date : Date) : Prop :=
  1900 ≤ date.year ∧ date.year ≤ 2200

instance (date : Date) : Decidable date.IsContemporary :=
  inferInstanceAs (Decidable (1900 ≤ date.year ∧ date.year ≤ 2200))

namespace IsContemporary

variable {date : Date} (contemporary : date.IsContemporary)

include contemporary

theorem ordinal_bounds : 693000 ≤ date.ordinal ∧ date.ordinal ≤ 804000 := by
  obtain ⟨low, high⟩ := contemporary
  have bounds := Date.ordinal_bounds date
  have here := daysBeforeYear_bounds (date.year - 1)
  have next := daysBeforeYear_bounds date.year
  rw [Nat.sub_add_cancel (by omega)] at here
  omega

theorem exists_addDays (days : Int) (low : -10000 ≤ days) (high : days ≤ 10000) :
    ∃ later, date.addDays days = .ok later ∧ 683000 ≤ later.ordinal ∧ later.ordinal ≤ 814000 := by
  have bounds := contemporary.ordinal_bounds
  obtain ⟨later, moved⟩ := exists_addDays_iff.mpr
    (show 1 ≤ (date.ordinal : Int) + days ∧ (date.ordinal : Int) + days ≤ lastOrdinal by
      rw [lastOrdinal]; omega)
  have counted := ordinal_addDays moved
  exact ⟨later, moved, by omega, by omega⟩

/-- The same day of another month is a day of the calendar. -/
theorem exists_addMonths (months : Int) (low : -1200 ≤ months) (high : months ≤ 1200) :
    ∃ later, date.addMonths months = .ok later := by
  obtain ⟨yearLow, yearHigh⟩ := contemporary
  obtain ⟨_, ⟨monthLow, monthHigh⟩, _⟩ := date.valid
  apply exists_addMonths_iff.mpr
  rw [monthCount, lastYear]
  omega

end IsContemporary

end Date

end Obligations.Calendar
