import Obligations.Subject.Context
import Obligations.Wording.Phrase

/-! # What texts can name

The values that the placeholders of a text refer to: the subject's record, values that are calculated
from it for a day, its dates in words, and the name of its stage.
-/

namespace Obligations.Wording

open Obligations.Calendar Obligations.Number

def figureNames : List String :=
  ["days_until_graduation", "days_until_opt_expiry", "days_until_passport_expiry",
   "unemployment_days_remaining", "time_remaining_friendly", "urgency_level", "urgency_indicator",
   "address_update_deadline", "job_reporting_deadline", "visa_status_summary", "compliance_score",
   "next_important_date"]

def daysLeft (today : Date) (date : Option Date) : Option Int :=
  date.map today.daysUntil

/-- The days of unemployment that a subject has left; none where it has no allowance. -/
def unemploymentLeft (employment : Employment) : Option Int :=
  if 0 < employment.maxUnemploymentDays then
    some (max 0 (employment.maxUnemploymentDays - employment.unemploymentDaysUsed))
  else none

/-- The day ten days after a date, in words; empty where there is no date. -/
def tenDaysAfter (date : Option Date) : Except Fault String :=
  match date with
  | some date => (date.addDays 10).map Date.longText
  | none => .ok ""

def nextDate (dates : List Date) (today : Date) : Option Date :=
  (dates.filter (today ≤ ·)).foldl (fun first date =>
    match first with
    | some earlier => if date < earlier then some date else some earlier
    | none => some date) none

/-- The values that are calculated for a subject on a day. -/
def figures (context : Context) (today : Date) : Except Fault (List (String × Value)) := do
  let addressDeadline ← tenDaysAfter context.residence.lastMoved
  let jobDeadline ← tenDaysAfter context.dates.employmentStart
  let passportDays := daysLeft today context.dates.passportExpiry
  let urgency := Urgency.ofRisk context.standing.riskScore
  return [
    ("days_until_graduation", .ofOption .int (daysLeft today context.dates.graduation)),
    ("days_until_opt_expiry", .ofOption .int (daysLeft today context.dates.optEnd)),
    ("days_until_passport_expiry", .ofOption .int passportDays),
    ("unemployment_days_remaining", .ofOption .int (unemploymentLeft context.employment)),
    ("time_remaining_friendly", .text (remaining passportDays)),
    ("urgency_level", .text urgency.word),
    ("urgency_indicator", .text urgency.sign),
    ("address_update_deadline", .text addressDeadline),
    ("job_reporting_deadline", .text jobDeadline),
    ("visa_status_summary", .text (context.visa.code ++ " - " ++ context.phase.title)),
    ("compliance_score", .int (100 - context.standing.riskScore)),
    ("next_important_date",
      .text (((nextDate (context.dates.named.filterMap (·.2)) today).map Date.longText).getD ""))]

/-- The dates that have a text even where a subject does not have them. -/
def dateNames : List String :=
  ["graduationDate", "optEndDate", "passportExpiryDate", "visaExpiryDate", "employmentStartDate",
   "usEntryDate", "courseStartDate"]

def dateTexts (dates : Milestones) (today : Date) : List (String × Value) :=
  let known := dates.named.filterMap fun (name, date) => date.map fun d => (name, Value.text d.longText)
  let missing := dateNames.filter fun name => !known.any (·.1 == name)
  known ++ missing.map (fun name => (name, Value.text "")) ++ [("today", .text today.longText)]

/-- Everything that the placeholders of a text can name. -/
def vocabulary (context : Context) (today : Date) : Except Fault (List (String × Value)) := do
  let calculated ← figures context today
  let record := match context.toValue with
    | .map members => members
    | _ => []
  return [("user", Value.map record), ("calculated", .map calculated),
    ("dates", .map (dateTexts context.dates today)), ("phaseName", .text context.phase.title)].foldl
    (fun members (name, value) => Value.setMember name value members) record

end Obligations.Wording
