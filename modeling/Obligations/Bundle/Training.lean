import Obligations.Bundle.Basic

/-! # Rules for practical training

What is to be reported during practical training, and how long it may be interrupted.
-/

namespace Obligations.Bundle

def jobReporting : Rule where
  id := "opt-job-reporting"
  name := "Report new employment"
  description := "New OPT employment must be reported within 10 days"
  group := .reporting
  phases := [.optActive, .stemActive]
  visaTypes := [.f1, .opt, .stemOpt]
  conditions := [isFlag "employment.newJobStarted" true, isFlag "employment.jobReportedToDSO" false]
  template := {
    title := "Report your job at \x7bemployment.employer\x7d"
    description := "Add \x7bemployment.employer\x7d (\x7bemployment.jobTitle\x7d) to the SEVP portal by \x7b#job_reporting_deadline\x7d."
    category := "reporting"
    priority := .high
    due := some { strategy := .relative, base := some "dates.employmentStartDate", offset := some ⟨10, .day⟩ } }
  priority := 92
  createdAt := some lastChange
  updatedAt := some lastChange
  tags := ["opt", "reporting"]

/-- The days without employment are limited. -/
def unemploymentLimit : Rule where
  id := "opt-unemployment-tracking"
  name := "Unemployment limit"
  description := "Unemployment days on OPT are capped"
  group := .employment
  phases := [.optActive, .stemActive]
  visaTypes := [.f1, .opt, .stemOpt]
  conditions := [exceeds "employment.unemploymentDaysUsed" 60, isGiven "dates.employmentEndDate"]
  template := {
    title := "\x7b#urgency_indicator\x7d \x7b#unemployment_days_remaining\x7d unemployment days remaining"
    description := "You have used \x7bemployment.unemploymentDaysUsed\x7d of \x7bemployment.maxUnemploymentDays\x7d allowed days. Find qualifying employment before the limit is reached."
    category := "employment"
    priority := .high
    due := some { strategy := .calculated, calculation := some "unemployment_grace_end" } }
  priority := 93
  createdAt := some lastChange
  updatedAt := some lastChange
  tags := ["opt", "unemployment"]

/-- Work needs a card that authorizes it. -/
def missingCard : Rule where
  id := "opt-ead-check"
  name := "Missing EAD"
  description := "A valid EAD card is needed to work on OPT"
  group := .documents
  phases := [.optActive]
  visaTypes := [.f1, .opt]
  conditions := [isFlag "documents.eadValid" false]
  template := {
    title := "Upload your EAD card"
    description := "No valid EAD is on file. Upload a copy of your card."
    category := "documents"
    priority := .medium }
  priority := 70
  createdAt := some lastChange
  updatedAt := some lastChange
  tags := ["ead"]

/-- The rules of the set, in order. -/
def training : List Rule :=
  [jobReporting, unemploymentLimit, missingCard]

end Obligations.Bundle
