import Obligations.Calendar.BusinessDay
import Obligations.Condition.Evaluation
import Obligations.DueDate.Plan
import Obligations.DueDate.Recurrence
import Obligations.Subject.Context

/-! # Finding due dates

What a plan comes to for a subject on a day. Whatever stands against a date ends in a failure that
names the strategy; a date that is found is kept within the bounds of the plan.
-/

namespace Obligations

open Obligations.Calendar Obligations.Text

/-- The formulas that have a name. -/
inductive Formula where
  | optApplicationWindow
  | stemExtensionDeadline
  | passportRenewal
  | addressUpdate
  | unemploymentGraceEnd
deriving DecidableEq, Repr

/-- Why a plan has no date. -/
inductive DueFault where
  | missing (reason : String)
  | calendar (fault : Fault)

namespace DueFault

def message : DueFault → String
  | .missing reason => reason
  | .calendar fault => "Date calculation failed: " ++ fault.message

end DueFault

/-- A date, or why there is none. -/
abbrev Due := Except DueFault Date

namespace Due

def ofCalendar (result : Except Fault Date) : Due :=
  match result with
  | .ok date => .ok date
  | .error fault => .error (.calendar fault)

def require (date : Option Date) (reason : String) : Due :=
  match date with
  | some date => .ok date
  | none => .error (.missing reason)

end Due

namespace Formula

def code : Formula → String
  | .optApplicationWindow => "opt_application_window"
  | .stemExtensionDeadline => "stem_extension_deadline"
  | .passportRenewal => "passport_renewal_urgent"
  | .addressUpdate => "address_update_deadline"
  | .unemploymentGraceEnd => "unemployment_grace_end"

/-- The formula with a given name. -/
def ofCode? (code : String) : Option Formula :=
  [Formula.optApplicationWindow, .stemExtensionDeadline, .passportRenewal, .addressUpdate,
    .unemploymentGraceEnd].find? (·.code == code)

/-- The days of unemployment that a formula counts with where a subject has no allowance. -/
def defaultAllowance : Int := 90

/-- A date, or a date soon after today once the first is reached. -/
def orSoon (today date : Date) (days : Int) : Except Fault Date :=
  if date ≤ today then today.addDays days else .ok date

def apply (formula : Formula) (context : Context) (today : Date) : Due :=
  match formula with
  | .optApplicationWindow => do
    let graduation ← Due.require context.dates.graduation
      "Graduation date required for OPT calculation"
    let opens ← Due.ofCalendar (graduation.addDays (-90))
    Due.ofCalendar (orSoon today opens 7)
  | .stemExtensionDeadline => do
    let finish ← Due.require context.dates.optEnd
      "OPT end date required for STEM extension calculation"
    Due.ofCalendar (finish.addDays (-90))
  | .passportRenewal => do
    let expiry ← Due.require context.dates.passportExpiry "Passport expiry date required"
    let renewBy ← Due.ofCalendar (expiry.addMonths (-6))
    Due.ofCalendar (orSoon today renewBy 14)
  | .addressUpdate =>
    match context.residence.lastMoved with
    | some moved => Due.ofCalendar (moved.addDays 10)
    | none => Due.ofCalendar (today.addDays 3)
  | .unemploymentGraceEnd => do
    let finish ← Due.require context.dates.employmentEnd
      "Employment end date required for unemployment calculation"
    let allowed := context.employment.maxUnemploymentDays
    let allowance := if allowed = 0 then defaultAllowance else allowed
    Due.ofCalendar (finish.addDays (allowance - context.employment.unemploymentDaysUsed))

end Formula

namespace DuePlan

/-- The date that a plan gives. -/
def fixedDate (plan : DuePlan) : Due :=
  match plan.base with
  | none => .error (.missing "Fixed date requires baseDate")
  | some base =>
    if base.isEmpty then .error (.missing "Fixed date requires baseDate")
    else Due.require (Date.ofIso? ((trimChars base.toList).take 10)) ("Invalid fixed date: " ++ base)

/-- A date of the subject's record. -/
def baseDate (base : String) (context : Context) : Due :=
  match context.toValue.atPath base with
  | .date date => .ok date
  | .stamp moment => .ok moment.date
  | _ => .error (.missing ("Base date field " ++ base ++ " not found in user context"))

def relativeDate (plan : DuePlan) (context : Context) : Due :=
  match plan.base, plan.offset with
  | some base, some offset =>
    if base.isEmpty then .error (.missing "Relative date requires baseDate and offset")
    else do
      let start ← baseDate base context
      let shifted ← Due.ofCalendar (offset.applyToDate start)
      Due.ofCalendar (shifted.nextWorkingDay plan.businessDaysOnly plan.excludeHolidays)
  | _, _ => .error (.missing "Relative date requires baseDate and offset")

def calculatedDate (plan : DuePlan) (context : Context) (today : Date) : Due :=
  match Formula.ofCode? (trim (plan.calculation.getD "")) with
  | some formula => formula.apply context today
  | none => .error (.missing ("Unknown calculation: " ++ plan.calculation.getD "None"))

def recurringDate (plan : DuePlan) (today : Date) : Due :=
  match plan.calculation with
  | none => .error (.missing "Recurring date requires a calculation")
  | some calculation =>
    if calculation.isEmpty then .error (.missing "Recurring date requires a calculation")
    else
      match Cadence.ofName? calculation, Offset.ofText calculation with
      | some cadence, _ => Due.ofCalendar (cadence.next today)
      | none, .ok interval => Due.ofCalendar (interval.applyToDate today)
      | none, .error _ => .error (.missing ("Invalid recurrence interval: " ++ calculation))

/-- A date kept within the bounds of a plan. -/
def clamp (plan : DuePlan) (date : Date) : Date :=
  if plan.earliest.any (date < ·) then plan.earliest.getD date
  else if plan.latest.any (· < date) then plan.latest.getD date
  else date

/-- The date that a plan comes to before it is kept within bounds. -/
def unboundedDate (plan : DuePlan) (context : Context) (today : Date) : Due :=
  match plan.strategy with
  | .fixed => plan.fixedDate
  | .relative => plan.relativeDate context
  | .calculated => plan.calculatedDate context today
  | .recurring => plan.recurringDate today

/-- The due date of a plan for a subject on a day. -/
def dueDate (plan : DuePlan) (context : Context) (today : Date) : Outcome Date :=
  match plan.unboundedDate context today with
  | .ok date => .ok (plan.clamp date)
  | .error fault => .fail (.of .dueDate fault.message { dateType := some plan.strategy.code })

end DuePlan

end Obligations
