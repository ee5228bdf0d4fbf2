import Mathlib.Order.Bounds.Defs
import Obligations.Calendar.BusinessDay

/-! # The first day that counts

A date that has to be a business day, or no holiday, moves on until it is one. The way comes to an end
within the calendar, since that ends with a Friday which is no holiday, and passes over no day that counts.
-/

namespace Obligations.Calendar.Date

/-- Whether a day counts, where only business days may do so and holidays may not. -/
structure Counts (businessDaysOnly excludeHolidays : Bool) (day : Date) : Prop where
  business : businessDaysOnly = true → day.isBusinessDay = true
  free : excludeHolidays = true → day.isHoliday = false

/-- The days from a date on that count. -/
def countingFrom (businessDaysOnly excludeHolidays : Bool) (date : Date) : Set Date :=
  {day | date ≤ day ∧ day.Counts businessDaysOnly excludeHolidays}

theorem isBusinessDay_iff {day : Date} : day.isBusinessDay = true ↔ (day.ordinal + 6) % 7 < 5 := by
  rw [isBusinessDay, weekday, decide_eq_true_eq]

/-- Where holidays may count, only a weekend keeps a day from doing so. -/
theorem counts_false_iff {businessDaysOnly : Bool} {day : Date} :
    day.Counts businessDaysOnly false ↔ (businessDaysOnly = true → day.isBusinessDay = true) :=
  ⟨Counts.business, fun business => ⟨business, fun asked => absurd asked Bool.false_ne_true⟩⟩

section Weekends

/-- From a weekend it is so many days to the Monday. The calendar ends with a Friday, so that it has it. -/
theorem exists_addDays_of_weekend {day : Date} {days : Int} (weekend : (day.ordinal + 6) % 7 = 7 - days)
    (short : days ≤ 2) :
    ∃ later, day.addDays days = .ok later ∧ IsLeast (countingFrom true false day) later := by
  have bound := ordinal_le_last day
  have inside : 1 ≤ (day.ordinal : Int) + days ∧ (day.ordinal : Int) + days ≤ lastOrdinal := by
    rw [lastOrdinal] at bound ⊢
    omega
  obtain ⟨later, moved⟩ := exists_addDays_iff.mpr inside
  have counted := ordinal_addDays moved
  refine ⟨later, moved, ⟨?_, counts_false_iff.mpr fun _ => ?_⟩, ?_⟩
  · rw [le_iff_ordinal_le]
    omega
  · rw [isBusinessDay_iff]
    omega
  · rintro other ⟨behind, counts⟩
    have business := isBusinessDay_iff.mp (counts.business rfl)
    rw [le_iff_ordinal_le] at behind ⊢
    omega

/-- Every day is a business day, or there is one behind its weekend. -/
theorem exists_nextBusinessDay (day : Date) :
    ∃ later, day.nextBusinessDay = .ok later ∧ IsLeast (countingFrom true false day) later := by
  rw [nextBusinessDay, weekday]
  split
  next saturday =>
    apply exists_addDays_of_weekend
    all_goals omega
  next =>
    split
    next sunday =>
      apply exists_addDays_of_weekend
      all_goals omega
    next =>
      refine ⟨day, rfl, ⟨Nat.le_refl _, counts_false_iff.mpr fun _ => ?_⟩, fun other found => found.1⟩
      rw [isBusinessDay_iff]
      omega

/-- A day settles on the first one that counts as to weekends. -/
theorem exists_settle (businessDaysOnly : Bool) (day : Date) :
    ∃ settled, day.settle businessDaysOnly = .ok settled ∧
      IsLeast (countingFrom businessDaysOnly false day) settled := by
  cases businessDaysOnly with
  | true => exact exists_nextBusinessDay day
  | false =>
    have counts : day.Counts false false := counts_false_iff.mpr fun asked => absurd asked Bool.false_ne_true
    exact ⟨day, rfl, ⟨Nat.le_refl _, counts⟩, fun other found => found.1⟩

theorem isLeast_of_settle {businessDaysOnly : Bool} {day settled : Date}
    (settles : day.settle businessDaysOnly = .ok settled) :
    IsLeast (countingFrom businessDaysOnly false day) settled := by
  obtain ⟨found, same, least⟩ := exists_settle businessDaysOnly day
  cases settles.symm.trans same
  exact least

end Weekends

section Holidays

/-- A holiday is never the last day of the calendar. -/
theorem exists_addDays_one {day : Date} (holiday : day.isHoliday = true) :
    ∃ next, day.addDays 1 = .ok next := by
  apply exists_addDays_iff.mpr
  have bound := ordinal_le_last day
  have apart : day.ordinal ≠ lastOrdinal := by
    intro same
    obtain rfl : day = last := ordinal_inj.mp same
    cases holiday
  omega

/-- The way past holidays ends with the first day that counts. -/
theorem passHolidays_isLeast {businessDaysOnly : Bool} {day : Date}
    (business : businessDaysOnly = true → day.isBusinessDay = true) :
    ∃ last, day.passHolidays businessDaysOnly = .ok last ∧
      IsLeast (countingFrom businessDaysOnly true day) last := by
  fun_induction passHolidays businessDaysOnly day with
  | case1 day holiday fault moved =>
    obtain ⟨next, same⟩ := exists_addDays_one holiday
    cases moved.symm.trans same
  | case2 day holiday next moved fault settles =>
    obtain ⟨settled, same, _⟩ := exists_settle businessDaysOnly next
    cases settles.symm.trans same
  | case3 day holiday next moved settled settles ih =>
    obtain ⟨⟨nextLe, settledBusiness, _⟩, least⟩ := isLeast_of_settle settles
    obtain ⟨last, passed, ⟨settledLe, counts⟩, ahead⟩ := ih settledBusiness
    have counted := ordinal_addDays moved
    rw [le_iff_ordinal_le] at nextLe settledLe
    refine ⟨last, passed, ⟨le_iff_ordinal_le.mpr (by omega), counts⟩, ?_⟩
    rintro other ⟨behind, otherCounts⟩
    -- the holiday itself does not count, and neither does the weekend behind it
    have apart : day ≠ other := by
      rintro rfl
      cases holiday.symm.trans (otherCounts.free rfl)
    have later : next ≤ other := by
      have differ := mt ordinal_inj.mp apart
      rw [le_iff_ordinal_le] at behind ⊢
      omega
    exact ahead ⟨least ⟨later, counts_false_iff.mpr otherCounts.business⟩, otherCounts⟩
  | case4 day free =>
    rw [Bool.not_eq_true] at free
    exact ⟨day, rfl, ⟨Nat.le_refl _, business, fun _ => free⟩, fun other found => found.1⟩

end Holidays

/-- A date moves on to the first day that counts, which the calendar always has. -/
theorem nextWorkingDay_isLeast (businessDaysOnly excludeHolidays : Bool) (date : Date) :
    ∃ later, date.nextWorkingDay businessDaysOnly excludeHolidays = .ok later ∧
      IsLeast (countingFrom businessDaysOnly excludeHolidays date) later := by
  obtain ⟨first, settles, _⟩ := exists_settle businessDaysOnly date
  have least := isLeast_of_settle settles
  rw [nextWorkingDay, settles]
  cases excludeHolidays with
  | false => exact ⟨first, rfl, least⟩
  | true =>
    obtain ⟨last, passed, ⟨firstLe, counts⟩, ahead⟩ := passHolidays_isLeast least.1.2.business
    refine ⟨last, passed, ⟨Nat.le_trans least.1.1 firstLe, counts⟩, ?_⟩
    rintro other ⟨behind, otherCounts⟩
    exact ahead ⟨least.2 ⟨behind, counts_false_iff.mpr otherCounts.business⟩, otherCounts⟩

end Obligations.Calendar.Date
