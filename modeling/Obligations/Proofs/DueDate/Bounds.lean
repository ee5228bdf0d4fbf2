import Obligations.DueDate.Calculation
import Obligations.Proofs.Calendar.Order
import Obligations.Proofs.DueDate.Recovery

/-! # Due dates within bounds

The bounds of a plan that has been read leave room for a date. Whatever date the plan comes to is moved no
further than they ask for; whatever stands against one, calendar arithmetic in particular, ends in the same
kind of failure.
-/

namespace Obligations

open Obligations.Calendar

namespace DuePlan

/-- Whether a day is within the bounds of a plan. -/
structure IsWithin (plan : DuePlan) (day : Date) : Prop where
  earliest : ∀ bound ∈ plan.earliest, bound ≤ day
  latest : ∀ bound ∈ plan.latest, day ≤ bound

/-- Whether a day within the bounds of a plan lies between a date and all the others there. -/
structure IsNearest (plan : DuePlan) (date due : Date) : Prop where
  within : plan.IsWithin due
  behind : ∀ other, plan.IsWithin other → date ≤ other → due ≤ other
  before : ∀ other, plan.IsWithin other → other ≤ date → other ≤ due

variable {plan : DuePlan}

theorem hasRoom_iff :
    plan.hasRoom = true ↔ ∀ earliest ∈ plan.earliest, ∀ latest ∈ plan.latest, earliest ≤ latest := by
  rw [hasRoom]
  cases plan.earliest with
  | none => simp
  | some earliest =>
    cases plan.latest with
    | none => simp
    | some latest => simp

/-- Bounds that leave room move a date to the nearest day within them. -/
theorem clamp_isNearest (room : plan.hasRoom = true) (date : Date) : plan.IsNearest date (plan.clamp date) := by
  rw [hasRoom_iff] at room
  rw [clamp]
  split
  next early =>
    obtain ⟨bound, given, early⟩ := (Option.any_eq_true _ _).mp early
    have early := of_decide_eq_true early
    rw [given, Option.getD_some]
    constructor
    · refine ⟨fun other same => ?_, room bound given⟩
      cases given.symm.trans same
      exact Nat.le_refl _
    · exact fun other within _ => within.earliest bound given
    · exact fun other _ before => Nat.le_trans before (Nat.le_of_lt early)
  next notEarly =>
    have reached : ∀ bound ∈ plan.earliest, bound ≤ date := fun bound given =>
      Nat.not_lt.mp fun early => notEarly ((Option.any_eq_true _ _).mpr ⟨bound, given, decide_eq_true early⟩)
    split
    next late =>
      obtain ⟨bound, given, late⟩ := (Option.any_eq_true _ _).mp late
      have late := of_decide_eq_true late
      rw [given, Option.getD_some]
      constructor
      · refine ⟨fun earliest first => room earliest first bound given, fun other same => ?_⟩
        cases given.symm.trans same
        exact Nat.le_refl _
      · exact fun other _ behind => Nat.le_trans (Nat.le_of_lt late) behind
      · exact fun other within _ => within.latest bound given
    next notLate =>
      have kept : ∀ bound ∈ plan.latest, date ≤ bound := fun bound given =>
        Nat.not_lt.mp fun late => notLate ((Option.any_eq_true _ _).mpr ⟨bound, given, decide_eq_true late⟩)
      exact ⟨⟨reached, kept⟩, fun _ _ behind => behind, fun _ _ before => before⟩

/-- A date within the bounds is the nearest one to itself. -/
theorem IsNearest.eq_of_isWithin {date due : Date} (nearest : plan.IsNearest date due)
    (within : plan.IsWithin date) : due = date := by
  have behind := nearest.behind date within (Nat.le_refl _)
  have before := nearest.before date within (Nat.le_refl _)
  exact Date.ordinal_inj.mp (Nat.le_antisymm behind before)

/-- The failure that a plan without a date ends in. -/
def failure (plan : DuePlan) (fault : DueFault) : Failure :=
  .of .dueDate fault.message { dateType := some plan.strategy.code }

/-- Where there is no date, the failure has the strategy of the plan as its only detail. -/
theorem details_failure (plan : DuePlan) (fault : DueFault) :
    (plan.failure fault).details = [("date_type", .value (.text plan.strategy.code))] := by
  rw [failure]
  cases plan.strategy <;> rfl

/-- What has been read as a plan gives every subject on every day either the day within its bounds that is
nearest to the date it comes to, or the failure of its strategy. -/
theorem dueDate_of_reader {value : Value} (read : reader value = .ok plan) (context : Context) (today : Date) :
    (∃ date due, plan.unboundedDate context today = .ok date ∧ plan.dueDate context today = .ok due ∧
      plan.IsNearest date due) ∨
    ∃ fault reported, plan.unboundedDate context today = .error fault ∧
      plan.dueDate context today = .fail reported ∧ reported.kind = .dueDate ∧
      reported.message = fault.message ∧
      reported.details = [("date_type", .value (.text plan.strategy.code))] := by
  obtain ⟨members, rfl, parts⟩ := exists_isReadFrom read
  rw [dueDate]
  cases came : plan.unboundedDate context today with
  | ok date => exact Or.inl ⟨date, plan.clamp date, rfl, rfl, clamp_isNearest parts.room date⟩
  | error fault => exact Or.inr ⟨fault, plan.failure fault, rfl, rfl, rfl, rfl, details_failure plan fault⟩

/-- A plan for the beginning of every year, within bounds. -/
def everyYear : DuePlan where
  strategy := .recurring
  calculation := some "yearly"
  earliest := some ⟨2031, 9, 1, by decide⟩
  latest := some ⟨2031, 9, 30, by decide⟩

theorem dueDate_everyYear_lastYear :
    reader everyYear.toValue = .ok everyYear ∧
      ∃ reported, everyYear.dueDate { subjectId := "s1" } Date.last = .fail reported ∧
        reported.kind = .dueDate ∧ reported.message = "Date calculation failed: year 10000 is out of range" ∧
        reported.details = [("date_type", .value (.text "recurring"))] := by
  have read : reader everyYear.toValue = .ok everyYear := by rfl
  have beyond : everyYear.unboundedDate { subjectId := "s1" } Date.last =
      .error (.calendar (.yearOutside 10000)) := by rfl
  refine ⟨read, ?_⟩
  rcases dueDate_of_reader read { subjectId := "s1" } Date.last with
    ⟨date, due, found, _⟩ | ⟨fault, reported, same, failed, kind, message, details⟩
  · cases beyond.symm.trans found
  · cases beyond.symm.trans same
    exact ⟨reported, failed, kind, message, details⟩

end DuePlan

end Obligations
