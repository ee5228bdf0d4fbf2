import Obligations.Proofs.Calendar.Ordinal

/-! # The order of days

Days come in the order of their months, and in a month in the order of its days. So no two days have
the same ordinal, and the calendar ends with the last day of its last year.
-/

namespace Obligations.Calendar.Date

/-- The months up to the one of a date, counted from the beginning of a year that is not there. -/
def monthCount (date : Date) : Nat :=
  date.year * 12 + (date.month - 1)

theorem le_iff_ordinal_le {left right : Date} : left ≤ right ↔ left.ordinal ≤ right.ordinal :=
  Iff.rfl

theorem eq_of_parts {left right : Date} (year : left.year = right.year) (month : left.month = right.month)
    (day : left.day = right.day) : left = right := by
  cases left
  cases right
  cases year
  cases month
  cases day
  rfl

/-- The months up to the one of a date tell its year and its month. -/
theorem month_of_monthCount {left right : Date} (same : left.monthCount = right.monthCount) :
    left.year = right.year ∧ left.month = right.month := by
  obtain ⟨_, ⟨leftLow, leftHigh⟩, _⟩ := left.valid
  obtain ⟨_, ⟨rightLow, rightHigh⟩, _⟩ := right.valid
  rw [monthCount, monthCount] at same
  omega

theorem eq_of_monthCount {left right : Date} (months : left.monthCount = right.monthCount)
    (day : left.day = right.day) : left = right := by
  obtain ⟨year, month⟩ := month_of_monthCount months
  exact eq_of_parts year month day

theorem daysInMonth_of_monthCount {left right : Date} (same : left.monthCount = right.monthCount) :
    daysInMonth left.year left.month = daysInMonth right.year right.month := by
  obtain ⟨year, month⟩ := month_of_monthCount same
  rw [year, month]

theorem daysBeforeYear_le {year later : Nat} (low : 1 ≤ year) (ordered : year ≤ later) :
    daysBeforeYear year ≤ daysBeforeYear later := by
  obtain ⟨years, rfl⟩ := Nat.exists_eq_add_of_le' low
  obtain ⟨more, rfl⟩ := Nat.exists_eq_add_of_le ordered
  induction more with
  | zero => exact Nat.le_refl _
  | succ more ih =>
    have grown := daysBeforeYear_succ (show 1 ≤ years + 1 + more by omega)
    change _ ≤ daysBeforeYear (years + 1 + more + 1)
    have upTo := ih (by omega)
    omega

theorem daysBeforeMonth_le (year : Nat) {month later : Nat} (low : 1 ≤ month) (ordered : month ≤ later) :
    daysBeforeMonth year month ≤ daysBeforeMonth year later := by
  obtain ⟨before, rfl⟩ := Nat.exists_eq_add_of_le' low
  obtain ⟨more, rfl⟩ := Nat.exists_eq_add_of_le ordered
  rw [show before + 1 + more = before + more + 1 by omega]
  exact daysBeforeMonth_le_of_add year before more

/-- A day comes before all days of later months. -/
theorem ordinal_lt_of_monthCount_lt {left right : Date} (earlier : left.monthCount < right.monthCount) :
    left.ordinal < right.ordinal := by
  obtain ⟨⟨yearLow, _⟩, ⟨monthLow, monthHigh⟩, _, dayHigh⟩ := left.valid
  obtain ⟨_, ⟨laterLow, laterHigh⟩, dayLow, _⟩ := right.valid
  rw [monthCount, monthCount] at earlier
  by_cases sameYear : left.year = right.year
  · obtain ⟨before, month⟩ := Nat.exists_eq_add_of_le' monthLow
    have grown : daysBeforeMonth left.year (before + 2) =
        daysBeforeMonth left.year (before + 1) + daysInMonth left.year (before + 1) := rfl
    have upTo := daysBeforeMonth_le left.year (show 1 ≤ before + 2 by omega)
      (show before + 2 ≤ right.month by omega)
    rw [month] at dayHigh
    rw [ordinal, ordinal, ← sameYear, month]
    omega
  · have ofLeft := (ordinal_bounds left).2
    have ofRight := (ordinal_bounds right).1
    have upTo := daysBeforeYear_le (show 1 ≤ left.year + 1 by omega) (show left.year + 1 ≤ right.year by omega)
    omega

theorem ordinal_lt_iff_of_monthCount_eq {left right : Date} (same : left.monthCount = right.monthCount) :
    left.ordinal < right.ordinal ↔ left.day < right.day := by
  obtain ⟨year, month⟩ := month_of_monthCount same
  rw [ordinal, ordinal, year, month]
  omega

/-- Days are ordered by their months, and by the days of a month. -/
theorem lt_iff {left right : Date} :
    left < right ↔ left.monthCount < right.monthCount ∨
      left.monthCount = right.monthCount ∧ left.day < right.day := by
  change left.ordinal < right.ordinal ↔ _
  rcases Nat.lt_trichotomy left.monthCount right.monthCount with earlier | same | later
  · exact iff_of_true (ordinal_lt_of_monthCount_lt earlier) (Or.inl earlier)
  · rw [ordinal_lt_iff_of_monthCount_eq same]
    omega
  · have reverse := ordinal_lt_of_monthCount_lt later
    omega

theorem le_iff {left right : Date} :
    left ≤ right ↔ left.monthCount < right.monthCount ∨
      left.monthCount = right.monthCount ∧ left.day ≤ right.day := by
  have notBehind : left ≤ right ↔ ¬ right < left := Nat.not_lt.symm
  rw [notBehind, lt_iff]
  omega

/-- Ordinals tell days apart. -/
theorem ordinal_inj {left right : Date} : left.ordinal = right.ordinal ↔ left = right := by
  constructor
  · intro same
    have notBefore : ¬ left < right := Nat.not_lt.mpr (Nat.le_of_eq same.symm)
    have notBehind : ¬ right < left := Nat.not_lt.mpr (Nat.le_of_eq same)
    rw [lt_iff] at notBefore notBehind
    apply eq_of_monthCount
    · omega
    · omega
  · rintro rfl
    rfl

theorem one_le_ordinal (date : Date) : 1 ≤ date.ordinal :=
  Nat.succ_le_of_lt (Nat.zero_lt_of_lt (ordinal_bounds date).1)

/-- The calendar has no day behind the last day of its last year. -/
theorem ordinal_le_last (date : Date) : date.ordinal ≤ lastOrdinal := by
  obtain ⟨⟨_, yearHigh⟩, _⟩ := date.valid
  calc
    date.ordinal ≤ daysBeforeYear (date.year + 1) := (ordinal_bounds date).2
    _ ≤ daysBeforeYear 10000 := daysBeforeYear_le (Nat.le_add_left 1 _) (Nat.succ_le_succ yearHigh)
    _ = lastOrdinal := by decide

end Obligations.Calendar.Date
