import Obligations.Bundle.Basic

/-! # Rules for extended practical training

What is needed to extend practical training, and what is reported while it lasts.
-/

namespace Obligations.Bundle

def employerEnrollment : Rule where
  id := "stem-opt-everify-check"
  name := "E-Verify employer"
  description := "STEM OPT employers must be enrolled in E-Verify"
  group := .employment
  phases := [.optActive, .stemApplication]
  visaTypes := [.f1, .opt]
  conditions := [isFlag "academic.isSTEM" true,
     .group [isMissing "employment.eVerifyCompliant", isFlag "employment.eVerifyCompliant" false] .any false]
  template := {
    title := "Confirm E-Verify enrollment for \x7bemployment.employer\x7d"
    description := "Ask your employer for its E-Verify company ID. It is required on Form I-983."
    category := "employment"
    priority := .high
    due := some { strategy := .relative, base := some "dates.optEndDate", offset := some ⟨-120, .day⟩ } }
  priority := 87
  createdAt := some lastChange
  updatedAt := some lastChange
  tags := ["stem", "e-verify"]

def trainingPlan : Rule where
  id := "stem-opt-i983-completion"
  name := "Training plan"
  description := "Form I-983 must be completed with the employer before filing"
  group := .documents
  phases := [.optActive, .stemApplication]
  visaTypes := [.f1, .opt]
  conditions := [isFlag "academic.isSTEM" true, isFlag "documents.i983Valid" false]
  template := {
    title := "Complete Form I-983 with your employer"
    description := "Work with your supervisor on the training plan and send it to your DSO.\x7b?academic.isSTEM: Your degree is STEM-designated.:\x7d"
    category := "documents"
    priority := .high
    due := some { strategy := .relative, base := some "dates.optEndDate", offset := some ⟨-100, .day⟩ } }
  priority := 86
  createdAt := some lastChange
  updatedAt := some lastChange
  tags := ["stem", "i983"]

/-- The extension is applied for before the training ends. -/
def extensionWindow : Rule where
  id := "stem-opt-application-window"
  name := "STEM OPT extension"
  description := "The extension must be filed before OPT ends"
  group := .deadlines
  phases := [.optActive, .stemApplication]
  visaTypes := [.f1, .opt]
  conditions := [isFlag "academic.isSTEM" true, isFlag "employment.stemOptApplicationSubmitted" false,
     isGiven "dates.optEndDate"]
  template := {
    title := "Apply for the STEM OPT extension (\x7b#days_until_opt_expiry\x7d days left on OPT)"
    description := "Your OPT ends on \x7bdates.optEndDate\x7d. File Form I-765 with the DSO recommendation and your I-983."
    category := "employment"
    priority := .high
    due := some { strategy := .calculated, calculation := some "stem_extension_deadline" }
    dependsOn := ["stem-opt-everify-check", "stem-opt-i983-completion"]
    autoComplete := some [isFlag "employment.stemOptApplicationSubmitted" true] }
  priority := 91
  createdAt := some lastChange
  updatedAt := some lastChange
  tags := ["stem", "deadline"]

/-- The report is made twice a year. -/
def validationReport : Rule where
  id := "stem-opt-validation-report"
  name := "STEM OPT validation report"
  description := "STEM OPT students confirm their information every six months"
  group := .reporting
  phases := [.stemActive]
  visaTypes := [.f1, .opt, .stemOpt]
  conditions := [isGiven "employment.status"]
  template := {
    title := "Submit your six-month STEM OPT validation report"
    description := "Confirm your address and employer details with your DSO. Compliance score: \x7b#compliance_score\x7d."
    category := "reporting"
    priority := .medium
    due := some { strategy := .recurring, calculation := some "semi-annually" } }
  priority := 60
  createdAt := some lastChange
  updatedAt := some lastChange
  tags := ["stem", "reporting"]

/-- The rules of the set, in order. -/
def extension : List Rule :=
  [employerEnrollment, trainingPlan, extensionWindow, validationReport]

end Obligations.Bundle
