/-! # Dates

Days of the proleptic Gregorian calendar, years 1 to 9999. A day is given by year, month and day of
the month, and counted by its ordinal, the first of January of year 1 being day 1. Both views carry
the same order.
-/

namespace Obligations.Calendar

/-- Whether a year has a twenty-ninth of February. -/
def isLeapYear (year : Nat) : Bool :=
  year % 4 == 0 && (year % 100 != 0 || year % 400 == 0)

def daysInMonth (year month : Nat) : Nat :=
  if month = 2 then (if isLeapYear year then 29 else 28)
  else if month = 4 || month = 6 || month = 9 || month = 11 then 30
  else 31

def lastYear : Nat := 9999

/-- The conditions on the parts of a date. -/
def ValidParts (year month day : Nat) : Prop :=
  (1 ≤ year ∧ year ≤ lastYear) ∧ (1 ≤ month ∧ month ≤ 12) ∧ (1 ≤ day ∧ day ≤ daysInMonth year month)

instance (year month day : Nat) : Decidable (ValidParts year month day) :=
  inferInstanceAs (Decidable (_ ∧ _))

/-- A day of the calendar. -/
structure Date where
  year : Nat
  month : Nat
  day : Nat
  valid : ValidParts year month day
deriving DecidableEq

namespace Date

/-- The date with the given parts, where there is one. -/
def ofParts? (year month day : Nat) : Option Date :=
  if valid : ValidParts year month day then some ⟨year, month, day, valid⟩ else none

theorem ofParts?_eq_some_iff {year month day : Nat} {date : Date} :
    ofParts? year month day = some date ↔
      date.year = year ∧ date.month = month ∧ date.day = day := by
  obtain ⟨y, m, d, valid⟩ := date
  simp only [ofParts?]
  constructor
  · intro found
    split at found
    · simpa [eq_comm] using found
    · contradiction
  · rintro ⟨rfl, rfl, rfl⟩
    rw [dif_pos valid]

@[simp] theorem ofParts?_parts (date : Date) :
    ofParts? date.year date.month date.day = some date :=
  ofParts?_eq_some_iff.mpr ⟨rfl, rfl, rfl⟩

/-- The first day of the calendar. -/
def first : Date := ⟨1, 1, 1, by decide⟩

/-- The last day of the calendar. -/
def last : Date := ⟨9999, 12, 31, by decide⟩

instance : Inhabited Date := ⟨first⟩

def daysBeforeYear (year : Nat) : Nat :=
  365 * (year - 1) + (year - 1) / 4 - (year - 1) / 100 + (year - 1) / 400

def daysBeforeMonth (year : Nat) : Nat → Nat
  | 0 => 0
  | 1 => 0
  | month + 2 => daysBeforeMonth year (month + 1) + daysInMonth year (month + 1)

/-- The count of a day, the first day of the calendar being day 1. -/
def ordinal (date : Date) : Nat :=
  daysBeforeYear date.year + daysBeforeMonth date.year date.month + date.day

def lastOrdinal : Nat := 3652059

/-- The year that a day belongs to. A year is guessed from the mean length of years; the guess is at
most one off. -/
def yearOfOrdinal (ordinal : Nat) : Nat :=
  let guess := (ordinal - 1) * 400 / 146097 + 1
  if ordinal ≤ daysBeforeYear guess then guess - 1
  else if daysBeforeYear (guess + 1) < ordinal then guess + 1
  else guess

/-- The month and the day of the month of a day of a year, from a month on. -/
def monthAndDay (year : Nat) : Nat → Nat → Nat → Nat × Nat
  | 0, month, day => (month, day)
  | fuel + 1, month, day =>
    if day ≤ daysInMonth year month then (month, day)
    else monthAndDay year fuel (month + 1) (day - daysInMonth year month)

/-- The day with a given ordinal, where the calendar has one. -/
def ofOrdinal? (ordinal : Int) : Option Date :=
  if 1 ≤ ordinal ∧ ordinal ≤ lastOrdinal then
    let count := ordinal.toNat
    let year := yearOfOrdinal count
    let (month, day) := monthAndDay year 11 1 (count - daysBeforeYear year)
    ofParts? year month day
  else none

/-- The day a number of days later, where the calendar has one. -/
def addDays? (date : Date) (days : Int) : Option Date :=
  ofOrdinal? (date.ordinal + days)

/-- The days from one date to another, negative when the second is the earlier one. -/
def daysUntil (start finish : Date) : Int :=
  (finish.ordinal : Int) - start.ordinal

/-- The day of the week, Monday being 0 and Sunday 6. -/
def weekday (date : Date) : Nat :=
  (date.ordinal + 6) % 7

def compare (left right : Date) : Ordering :=
  Ord.compare left.ordinal right.ordinal

instance : Ord Date := ⟨compare⟩

instance : LE Date := ⟨fun left right => left.ordinal ≤ right.ordinal⟩

instance : LT Date := ⟨fun left right => left.ordinal < right.ordinal⟩

instance (left right : Date) : Decidable (left ≤ right) :=
  inferInstanceAs (Decidable (left.ordinal ≤ right.ordinal))

instance (left right : Date) : Decidable (left < right) :=
  inferInstanceAs (Decidable (left.ordinal < right.ordinal))

def monthStart (date : Date) : Date :=
  ⟨date.year, date.month, 1, date.valid.1, date.valid.2.1, by
    have bounds := date.valid.2.2
    exact ⟨Nat.le_refl 1, Nat.le_trans bounds.1 bounds.2⟩⟩

end Date

def monthName (month : Nat) : String :=
  match month with
  | 1 => "January"
  | 2 => "February"
  | 3 => "March"
  | 4 => "April"
  | 5 => "May"
  | 6 => "June"
  | 7 => "July"
  | 8 => "August"
  | 9 => "September"
  | 10 => "October"
  | 11 => "November"
  | _ => "December"

end Obligations.Calendar
