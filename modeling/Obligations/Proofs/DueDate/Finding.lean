import Obligations.DueDate.Calculation
import Obligations.Proofs.DueDate.Recurrence
import Obligations.Proofs.DueDate.Relative
import Obligations.Rule.Template

/-! # Due dates that are found

As long as the dates of a subject are of the years around ours, a plan fails to find a due date only
where the subject does not have the date that it starts from, or has used up so many days of
unemployment that the calendar has no day for them.
-/

namespace Obligations

open Obligations.Calendar

/-- Whether the dates of a subject are of the years 1900 to 2200. -/
structure Context.IsContemporary (context : Context) : Prop where
  dates : ∀ entry ∈ context.dates.named, ∀ date ∈ entry.2, date.IsContemporary
  lastMoved : ∀ date ∈ context.residence.lastMoved, date.IsContemporary

instance (context : Context) : Decidable context.IsContemporary :=
  decidable_of_iff
    ((∀ entry ∈ context.dates.named, ∀ date ∈ entry.2, date.IsContemporary) ∧
      ∀ date ∈ context.residence.lastMoved, date.IsContemporary)
    ⟨fun both => ⟨both.1, both.2⟩, fun contemporary => ⟨contemporary.dates, contemporary.lastMoved⟩⟩

/-- The days of unemployment that formulas leave to a subject, below zero once they are used up. -/
def Employment.daysOfGrace (employment : Employment) : Int :=
  (if employment.maxUnemploymentDays = 0 then Formula.defaultAllowance
    else employment.maxUnemploymentDays) - employment.unemploymentDaysUsed

/-- Whether a subject has what a formula starts from. -/
def Context.Serves (context : Context) : Formula → Prop
  | .optApplicationWindow => context.dates.graduation.isSome
  | .stemExtensionDeadline => context.dates.optEnd.isSome
  | .passportRenewal => context.dates.passportExpiry.isSome
  | .addressUpdate => True
  | .unemploymentGraceEnd => ∃ finish, context.dates.employmentEnd = some finish ∧
      1 ≤ finish.ordinal + context.employment.daysOfGrace ∧
      finish.ordinal + context.employment.daysOfGrace ≤ Date.lastOrdinal

theorem Due.exists_ofCalendar_iff {result : Except Fault Date} :
    (∃ date, Due.ofCalendar result = .ok date) ↔ ∃ date, result = .ok date :=
  exists_congr fun _ => ofCalendar_eq_ok

theorem Formula.exists_orSoon {today : Date} (contemporary : today.IsContemporary) (date : Date)
    (days : Int) (low : -10000 ≤ days) (high : days ≤ 10000) : ∃ soon, orSoon today date days = .ok soon := by
  rw [orSoon]
  split
  · obtain ⟨soon, moved, _⟩ := contemporary.exists_addDays _ low high
    exact ⟨soon, moved⟩
  · exact ⟨date, rfl⟩

section Finding

variable {context : Context} (contemporary : context.IsContemporary) {today : Date}

include contemporary

/-- A formula gives a date exactly if the subject has what it starts from. -/
theorem Formula.exists_apply_iff (current : today.IsContemporary) (formula : Formula) :
    (∃ date, formula.apply context today = .ok date) ↔ context.Serves formula := by
  cases formula with
  | optApplicationWindow =>
    rw [apply, Context.Serves]
    cases given : context.dates.graduation with
    | none => simp [Due.require, bind, Except.bind]
    | some graduation =>
      have near := contemporary.dates ("graduationDate", _) (by simp [Milestones.named]) graduation given
      obtain ⟨opens, moved, _⟩ := near.exists_addDays (-90) (by decide) (by decide)
      obtain ⟨soon, settled⟩ := exists_orSoon current opens 7 (by decide) (by decide)
      simp [Due.require, moved, settled, Due.ofCalendar, bind, Except.bind]
  | stemExtensionDeadline =>
    rw [apply, Context.Serves]
    cases given : context.dates.optEnd with
    | none => simp [Due.require, bind, Except.bind]
    | some finish =>
      have near := contemporary.dates ("optEndDate", _) (by simp [Milestones.named]) finish given
      obtain ⟨opens, moved, _⟩ := near.exists_addDays (-90) (by decide) (by decide)
      simp [Due.require, moved, Due.ofCalendar, bind, Except.bind]
  | passportRenewal =>
    rw [apply, Context.Serves]
    cases given : context.dates.passportExpiry with
    | none => simp [Due.require, bind, Except.bind]
    | some expiry =>
      have near := contemporary.dates ("passportExpiryDate", _) (by simp [Milestones.named]) expiry given
      obtain ⟨renewBy, moved⟩ := near.exists_addMonths (-6) (by decide) (by decide)
      obtain ⟨soon, settled⟩ := exists_orSoon current renewBy 14 (by decide) (by decide)
      simp [Due.require, moved, settled, Due.ofCalendar, bind, Except.bind]
  | addressUpdate =>
    rw [apply, Context.Serves]
    simp only [iff_true]
    cases given : context.residence.lastMoved with
    | none =>
      obtain ⟨soon, moved, _⟩ := current.exists_addDays 3 (by decide) (by decide)
      exact ⟨soon, by simp [moved, Due.ofCalendar]⟩
    | some start =>
      obtain ⟨soon, moved, _⟩ := (contemporary.lastMoved start given).exists_addDays 10 (by decide) (by decide)
      exact ⟨soon, by simp [moved, Due.ofCalendar]⟩
  | unemploymentGraceEnd =>
    rw [apply, Context.Serves]
    cases given : context.dates.employmentEnd with
    | none => simp [Due.require, bind, Except.bind]
    | some finish =>
      simp only [Option.some.injEq, exists_eq_left']
      rw [← Date.exists_addDays_iff]
      exact Due.exists_ofCalendar_iff

/-- A date some days off one of the subject's is found exactly if the subject has that one. -/
theorem DuePlan.exists_relativeDate_iff {plan : DuePlan} {name : String} {date : Option Date} {days : Int}
    (listed : (name, date) ∈ context.dates.named) (base : plan.base = some ("dates." ++ name))
    (offset : plan.offset = some ⟨days, .day⟩) (low : -10000 ≤ days) (high : days ≤ 10000) :
    (∃ found, plan.relativeDate context = .ok found) ↔ date.isSome := by
  constructor
  · rintro ⟨found, came⟩
    obtain ⟨start, shifted, given, _⟩ := (relativeDate_eq_ok_iff base offset).mp came
    rw [context.atPath_date _ listed] at given
    cases date with
    | none => cases given
    | some day => rfl
  · intro known
    obtain ⟨start, same⟩ := Option.isSome_iff_exists.mp known
    obtain ⟨shifted, moved, _⟩ := (contemporary.dates _ listed start same).exists_addDays _ low high
    obtain ⟨settled, working, _⟩ :=
      shifted.nextWorkingDay_isLeast plan.businessDaysOnly plan.excludeHolidays
    have given : (context.toValue.atPath ("dates." ++ name)).IsOn start := by
      rw [context.atPath_date _ listed, same]
      exact .date
    exact ⟨settled, (relativeDate_eq_ok_iff base offset).mpr ⟨start, shifted, given, moved, working⟩⟩

end Finding

/-- A date that recurs by a cadence is found. -/
theorem DuePlan.exists_recurringDate {plan : DuePlan} {name : String} {cadence : Cadence} {today : Date}
    (current : today.IsContemporary) (recurs : plan.calculation = some name)
    (named : Cadence.ofName? name = some cadence) :
    ∃ found, plan.recurringDate today = .ok found := by
  obtain ⟨later, moved⟩ := cadence.exists_next current
  exact ⟨later, by rw [recurringDate_eq recurs named, moved, Due.ofCalendar]⟩

/-- Whether a template has no plan, or one that finds a date. -/
def Template.IsDated (template : Template) (context : Context) (today : Date) : Prop :=
  ∀ plan, template.due = some plan → ∃ date, plan.unboundedDate context today = .ok date

namespace Template

variable {template : Template} {plan : DuePlan} (planned : template.due = some plan)
  {context : Context} {today : Date}

include planned

theorem isDated_iff :
    template.IsDated context today ↔ ∃ date, plan.unboundedDate context today = .ok date := by
  rw [IsDated, planned]
  simp

/-- A template with a formula is dated exactly if the subject has what the formula starts from. -/
theorem isDated_iff_serves (contemporary : context.IsContemporary) (current : today.IsContemporary)
    (strategy : plan.strategy = .calculated) {name : String} (calculated : plan.calculation = some name)
    {formula : Formula} (named : Formula.ofCode? (Text.trim name) = some formula) :
    template.IsDated context today ↔ context.Serves formula := by
  rw [isDated_iff planned, DuePlan.unboundedDate, strategy]
  simp only [DuePlan.calculatedDate, calculated, Option.getD_some, named]
  exact formula.exists_apply_iff contemporary current

/-- A template with an offset is dated exactly if the subject has the date that it is an offset from. -/
theorem isDated_iff_given (contemporary : context.IsContemporary)
    (strategy : plan.strategy = .relative) {name : String} {date : Option Date} {days : Int}
    (listed : (name, date) ∈ context.dates.named) (base : plan.base = some ("dates." ++ name))
    (offset : plan.offset = some ⟨days, .day⟩) (low : -10000 ≤ days) (high : days ≤ 10000) :
    template.IsDated context today ↔ date.isSome := by
  rw [isDated_iff planned, DuePlan.unboundedDate, strategy]
  exact DuePlan.exists_relativeDate_iff contemporary listed base offset low high

/-- A template whose date recurs is dated. -/
theorem isDated_of_recurring (current : today.IsContemporary) (strategy : plan.strategy = .recurring)
    {name : String} {cadence : Cadence} (recurs : plan.calculation = some name)
    (named : Cadence.ofName? name = some cadence) :
    template.IsDated context today := by
  rw [isDated_iff planned, DuePlan.unboundedDate, strategy]
  exact DuePlan.exists_recurringDate current recurs named

end Template

end Obligations
