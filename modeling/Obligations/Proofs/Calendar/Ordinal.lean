import Obligations.Calendar.Date

/-! # Days and their ordinals

Every ordinal of the calendar is that of a day: the year that is guessed from an ordinal holds it, and
going through the months of the year finds the day.
-/

namespace Obligations.Calendar

def daysInYear (year : Nat) : Nat :=
  if isLeapYear year then 366 else 365

theorem isLeapYear_iff {year : Nat} :
    isLeapYear year = true ↔ year % 4 = 0 ∧ (year % 100 ≠ 0 ∨ year % 400 = 0) := by
  simp [isLeapYear]

theorem daysInMonth_pos (year month : Nat) : 1 ≤ daysInMonth year month := by
  rw [daysInMonth]
  split
  · split <;> omega
  · split <;> omega

namespace Date

/-- A hundredth of a number is at most a fourth of it, so that no days are lost. -/
private theorem century_le (years : Nat) : years / 100 ≤ years / 4 :=
  Nat.div_le_div_left (by omega) (by omega)

/-- The next year begins all days of a year later. -/
theorem daysBeforeYear_succ {year : Nat} (positive : 1 ≤ year) :
    daysBeforeYear (year + 1) = daysBeforeYear year + daysInYear year := by
  obtain ⟨years, rfl⟩ : ∃ years, year = years + 1 := ⟨year - 1, by omega⟩
  have fourth : (years + 1) / 4 = years / 4 + if (years + 1) % 4 = 0 then 1 else 0 := by
    split <;> omega
  have century : (years + 1) / 100 = years / 100 + if (years + 1) % 100 = 0 then 1 else 0 := by
    split <;> omega
  have cycle : (years + 1) / 400 = years / 400 + if (years + 1) % 400 = 0 then 1 else 0 := by
    split <;> omega
  have fourthOfCentury : (years + 1) % 100 = 0 → (years + 1) % 4 = 0 := by omega
  have centuryOfCycle : (years + 1) % 400 = 0 → (years + 1) % 100 = 0 := by omega
  have less := century_le years
  rw [daysBeforeYear, daysBeforeYear, daysInYear, Nat.add_sub_cancel, Nat.add_sub_cancel, fourth,
    century, cycle]
  -- Only whether each quotient grows counts from here on.
  clear fourth century cycle
  generalize years / 4 = fourths, years / 100 = centuries, years / 400 = cycles at less
  by_cases leap : isLeapYear (years + 1) = true
  · rw [if_pos leap]
    obtain ⟨ofFour, exception⟩ := isLeapYear_iff.mp leap
    rw [if_pos ofFour]
    by_cases ofHundred : (years + 1) % 100 = 0
    · rw [if_pos ofHundred, if_pos (exception.resolve_left (absurd ofHundred))]
      omega
    · rw [if_neg ofHundred, if_neg (fun ofCycle => ofHundred (centuryOfCycle ofCycle))]
      omega
  · rw [if_neg leap]
    rw [isLeapYear_iff] at leap
    by_cases ofFour : (years + 1) % 4 = 0
    · have ofHundred : (years + 1) % 100 = 0 :=
        Decidable.byContradiction fun other => leap ⟨ofFour, Or.inl other⟩
      have notCycle : ¬ (years + 1) % 400 = 0 := fun ofCycle => leap ⟨ofFour, Or.inr ofCycle⟩
      rw [if_pos ofFour, if_pos ofHundred, if_neg notCycle]
      omega
    · have notHundred : ¬ (years + 1) % 100 = 0 := fun ofHundred => ofFour (fourthOfCentury ofHundred)
      rw [if_neg ofFour, if_neg notHundred,
        if_neg (fun ofCycle => notHundred (centuryOfCycle ofCycle))]
      omega

/-- Four hundred years have 146097 days, and the days before a year are never far from their mean. -/
theorem daysBeforeYear_bounds (years : Nat) :
    146097 * years ≤ 400 * daysBeforeYear (years + 1) + 699 ∧
      400 * daysBeforeYear (years + 1) ≤ 146097 * years + 396 := by
  have less := century_le years
  rw [daysBeforeYear, Nat.add_sub_cancel]
  omega

/-- The year of an ordinal begins before the day and does not end before it. -/
theorem yearOfOrdinal_spec {ordinal : Nat} (low : 1 ≤ ordinal) :
    1 ≤ yearOfOrdinal ordinal ∧ daysBeforeYear (yearOfOrdinal ordinal) < ordinal ∧
      ordinal ≤ daysBeforeYear (yearOfOrdinal ordinal + 1) := by
  rw [yearOfOrdinal]
  generalize guessed : (ordinal - 1) * 400 / 146097 = years
  have lower : 146097 * years ≤ (ordinal - 1) * 400 := guessed ▸ Nat.mul_div_le _ _
  have upper : (ordinal - 1) * 400 < 146097 * (years + 1) :=
    guessed ▸ Nat.lt_mul_div_succ _ (by omega)
  have next := daysBeforeYear_bounds (years + 1)
  have overnext := daysBeforeYear_bounds (years + 2)
  split
  next notBegun =>
    cases years with
    | zero =>
      have none : daysBeforeYear (0 + 1) = 0 := rfl
      omega
    | succ earlier =>
      have before := daysBeforeYear_bounds earlier
      change _ ∧ daysBeforeYear (earlier + 1) < ordinal ∧
        ordinal ≤ daysBeforeYear (earlier + 1 + 1)
      omega
  next =>
    split
    next behind =>
      change _ ∧ _ ∧ ordinal ≤ daysBeforeYear (years + 2 + 1)
      omega
    next inside => omega

/-- The months of a year have all of its days. -/
theorem daysBeforeMonth_thirteen (year : Nat) : daysBeforeMonth year 13 = daysInYear year := by
  simp only [daysBeforeMonth, daysInMonth, daysInYear]
  by_cases leap : isLeapYear year = true <;> simp [leap]

/-- Going through the months of a year from one of them on ends in the month of the day. -/
theorem monthAndDay_spec (year fuel month day : Nat) (range : month + fuel = 12)
    (monthLow : 1 ≤ month) (low : 1 ≤ day)
    (high : daysBeforeMonth year month + day ≤ daysBeforeMonth year 13) :
    let found := monthAndDay year fuel month day
    (1 ≤ found.1 ∧ found.1 ≤ 12) ∧ (1 ≤ found.2 ∧ found.2 ≤ daysInMonth year found.1) ∧
      daysBeforeMonth year found.1 + found.2 = daysBeforeMonth year month + day := by
  induction fuel generalizing month day with
  | zero =>
    obtain rfl : month = 12 := range
    have last : daysBeforeMonth year 13 = daysBeforeMonth year 12 + daysInMonth year 12 := rfl
    have inMonth : day ≤ daysInMonth year 12 := by omega
    change (1 ≤ 12 ∧ 12 ≤ 12) ∧ (1 ≤ day ∧ day ≤ daysInMonth year 12) ∧ _
    exact ⟨⟨by decide, by decide⟩, ⟨low, inMonth⟩, rfl⟩
  | succ fuel ih =>
    rw [monthAndDay]
    split
    next inside => exact ⟨⟨monthLow, by omega⟩, ⟨low, inside⟩, rfl⟩
    next beyond =>
      obtain ⟨before, rfl⟩ : ∃ before, month = before + 1 := ⟨month - 1, by omega⟩
      have grown : daysBeforeMonth year (before + 2) =
          daysBeforeMonth year (before + 1) + daysInMonth year (before + 1) := rfl
      have rest : daysBeforeMonth year (before + 2) + (day - daysInMonth year (before + 1)) =
          daysBeforeMonth year (before + 1) + day := by
        omega
      obtain ⟨inYear, inMonth, same⟩ :=
        ih (before + 2) (day - daysInMonth year (before + 1)) (by omega) (by omega) (by omega)
          (rest ▸ high)
      exact ⟨inYear, inMonth, same.trans rest⟩

theorem daysBeforeMonth_le_of_add (year before more : Nat) :
    daysBeforeMonth year (before + 1) ≤ daysBeforeMonth year (before + more + 1) := by
  induction more with
  | zero => exact Nat.le_refl _
  | succ more ih =>
    have grown : daysBeforeMonth year (before + more + 2) =
        daysBeforeMonth year (before + more + 1) + daysInMonth year (before + more + 1) := rfl
    change _ ≤ daysBeforeMonth year (before + more + 2)
    omega

/-- A day of a month is a day of its year. -/
theorem dayOfYear_le (date : Date) :
    daysBeforeMonth date.year date.month + date.day ≤ daysInYear date.year := by
  obtain ⟨_, ⟨monthLow, monthHigh⟩, _, dayHigh⟩ := date.valid
  obtain ⟨before, same⟩ : ∃ before, date.month = before + 1 := ⟨date.month - 1, by omega⟩
  have grown : daysBeforeMonth date.year (before + 2) =
      daysBeforeMonth date.year (before + 1) + daysInMonth date.year (before + 1) := rfl
  have whole := daysBeforeMonth_le_of_add date.year (before + 1) (11 - before)
  rw [show before + 1 + (11 - before) + 1 = 13 by omega, daysBeforeMonth_thirteen] at whole
  rw [same] at dayHigh ⊢
  change daysBeforeMonth date.year (before + 2) ≤ _ at whole
  omega

/-- A day comes behind all years before its own, and before the next one. -/
theorem ordinal_bounds (date : Date) :
    daysBeforeYear date.year < date.ordinal ∧ date.ordinal ≤ daysBeforeYear (date.year + 1) := by
  have ofYear := dayOfYear_le date
  obtain ⟨⟨yearLow, _⟩, _, dayLow, _⟩ := date.valid
  rw [daysBeforeYear_succ yearLow, ordinal]
  omega

/-- Every ordinal of the calendar is that of a day. -/
theorem exists_ofOrdinal? {ordinal : Nat} (low : 1 ≤ ordinal) (high : ordinal ≤ lastOrdinal) :
    ∃ date, ofOrdinal? ordinal = some date ∧ date.ordinal = ordinal := by
  obtain ⟨yearLow, begun, notOver⟩ := yearOfOrdinal_spec low
  have yearHigh : yearOfOrdinal ordinal ≤ lastYear := by
    have mean := (daysBeforeYear_bounds (yearOfOrdinal ordinal - 1)).1
    rw [Nat.sub_add_cancel yearLow] at mean
    rw [lastOrdinal] at high
    rw [lastYear]
    omega
  rw [daysBeforeYear_succ yearLow, ← daysBeforeMonth_thirteen] at notOver
  have none : daysBeforeMonth (yearOfOrdinal ordinal) 1 = 0 := rfl
  have spec := monthAndDay_spec (yearOfOrdinal ordinal) 11 1
    (ordinal - daysBeforeYear (yearOfOrdinal ordinal)) (by decide) (by decide) (by omega) (by omega)
  cases found : monthAndDay (yearOfOrdinal ordinal) 11 1
      (ordinal - daysBeforeYear (yearOfOrdinal ordinal)) with
  | mk month day =>
    rw [found] at spec
    obtain ⟨inYear, inMonth, same⟩ := spec
    let date : Date := ⟨yearOfOrdinal ordinal, month, day, ⟨yearLow, yearHigh⟩, inYear, inMonth⟩
    refine ⟨date, ?_, ?_⟩
    · rw [ofOrdinal?, if_pos (by omega), Int.toNat_natCast]
      simp only [found]
      exact ofParts?_parts date
    · change daysBeforeYear (yearOfOrdinal ordinal) +
        daysBeforeMonth (yearOfOrdinal ordinal) month + day = ordinal
      change daysBeforeMonth (yearOfOrdinal ordinal) month + day = _ at same
      omega

end Date

end Obligations.Calendar
