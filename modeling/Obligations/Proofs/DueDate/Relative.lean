import Obligations.DueDate.Calculation
import Obligations.Proofs.Calendar.WorkingDay
import Obligations.Proofs.Outcome
import Obligations.Proofs.Subject.Fields

/-! # Due dates at an offset

A plan may start from a date of the subject. Once the offset has led to a day of the calendar nothing stands
against a due date any more: it is the first day from there on that counts, kept within the bounds.
-/

namespace Obligations

open Obligations.Calendar

/-- Whether a value is a day, or a moment of it. -/
inductive Value.IsOn (day : Date) : Value → Prop
  | date : IsOn day (.date day)
  | stamp {moment : Timestamp} (same : moment.date = day) : IsOn day (.stamp moment)

/-- The path without a name leads nowhere. -/
theorem Context.atPath_empty (context : Context) : context.toValue.atPath "" = .null := by
  have split : (Text.pieces '.' "".toList).map String.ofList = [""] := by decide
  rw [Value.atPath, split]
  rfl

theorem Due.ofCalendar_eq_ok {result : Except Fault Date} {day : Date} :
    ofCalendar result = .ok day ↔ result = .ok day := by
  cases result <;> simp [ofCalendar]

namespace DuePlan

variable {plan : DuePlan} {base : String} {context : Context} {start shifted : Date} {offset : Offset}

/-- A plan starts from the day that stands in the record of the subject. -/
theorem baseDate_eq_ok_iff : baseDate base context = .ok start ↔ (context.toValue.atPath base).IsOn start := by
  rw [baseDate]
  constructor
  · intro found
    split at found
    next day same =>
      cases found
      rw [same]
      exact .date
    next moment same =>
      cases found
      rw [same]
      exact .stamp rfl
    next => cases found
  · intro stands
    generalize context.toValue.atPath base = value at stands ⊢
    cases stands with
    | date => rfl
    | stamp same => exact congrArg Except.ok same

theorem isEmpty_of_isOn (given : (context.toValue.atPath base).IsOn start) : base.isEmpty = false := by
  rw [Bool.eq_false_iff]
  intro empty
  rw [String.isEmpty_iff.mp empty, Context.atPath_empty] at given
  cases given

section Offsets

variable (based : plan.base = some base) (moved : plan.offset = some offset)

include based moved

/-- A plan comes to where the way past weekends and holidays ends, once the offset has led somewhere. -/
theorem relativeDate_eq_ok_iff {day : Date} :
    plan.relativeDate context = .ok day ↔
      ∃ start shifted, (context.toValue.atPath base).IsOn start ∧ offset.applyToDate start = .ok shifted ∧
        shifted.nextWorkingDay plan.businessDaysOnly plan.excludeHolidays = .ok day := by
  rw [relativeDate, based, moved]
  dsimp only
  constructor
  · intro came
    split at came
    · cases came
    · obtain ⟨start, stands, came⟩ := Outcome.bind_eq_ok.mp came
      obtain ⟨shifted, shifts, came⟩ := Outcome.bind_eq_ok.mp came
      exact ⟨start, shifted, baseDate_eq_ok_iff.mp stands, Due.ofCalendar_eq_ok.mp shifts,
        Due.ofCalendar_eq_ok.mp came⟩
  · rintro ⟨start, shifted, given, shifts, settled⟩
    rw [isEmpty_of_isOn given, if_neg Bool.false_ne_true]
    apply Outcome.bind_eq_ok.mpr
    refine ⟨start, baseDate_eq_ok_iff.mpr given, ?_⟩
    apply Outcome.bind_eq_ok.mpr
    exact ⟨shifted, Due.ofCalendar_eq_ok.mpr shifts, Due.ofCalendar_eq_ok.mpr settled⟩

end Offsets

end DuePlan

end Obligations
