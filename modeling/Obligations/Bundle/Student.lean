import Obligations.Bundle.Basic

/-! # Rules for students

What students owe from their arrival to their graduation.
-/

namespace Obligations.Bundle

/-- A passport has to stay valid for half a year. -/
def passportRenewal : Rule where
  id := "f1-passport-renewal-urgent"
  name := "Passport renewal"
  description := "Passport must stay valid at least six months into the future"
  group := .documents
  phases := [.initialEntry, .duringProgram, .preGraduation, .postGraduation, .optActive, .stemActive,
     .general]
  visaTypes := [.f1, .j1, .opt, .stemOpt]
  conditions := [comesWithin "dates.passportExpiryDate" ⟨180, .day⟩]
  template := {
    title := "\x7b#urgency_indicator\x7d Renew your passport (\x7b#time_remaining_friendly\x7d left)"
    description := "Your passport expires on \x7bdates.passportExpiryDate\x7d. Contact your consulate to start the renewal and send a copy of the new passport to your DSO."
    category := "documents"
    priority := .high
    due := some { strategy := .calculated, calculation := some "passport_renewal_urgent" }
    reminders := some { intervals := [30, 14, 7, 1] } }
  priority := 95
  createdAt := some lastChange
  updatedAt := some lastChange
  tags := ["passport", "documents"]

def addressChange : Rule where
  id := "f1-address-change-sevis"
  name := "Report address change"
  description := "Address changes must be reported to the DSO within 10 days"
  group := .reporting
  phases := [.initialEntry, .duringProgram, .preGraduation, .postGraduation, .optActive, .stemActive]
  visaTypes := [.f1, .opt, .stemOpt]
  conditions := [isFlag "flags.addressChangeRecent" true, isFlag "location.addressReportedToSevis" false]
  template := {
    title := "Report your new address to your DSO"
    description := "You moved to \x7blocation.currentAddress\x7d. Update SEVIS through your DSO by \x7b#address_update_deadline\x7d."
    category := "reporting"
    priority := .high
    due := some { strategy := .calculated, calculation := some "address_update_deadline" }
    changes := [("univ-001", { description := some "You moved to \x7blocation.currentAddress\x7d. Update your address in the student portal by \x7b#address_update_deadline\x7d." })] }
  priority := 90
  createdAt := some lastChange
  updatedAt := some lastChange
  tags := ["sevis", "address"]

/-- An adviser has to recommend practical training. -/
def adviserMeeting : Rule where
  id := "f1-meet-dso-opt"
  name := "Meet DSO about OPT"
  description := "An OPT recommendation from the DSO is needed before filing"
  group := .employment
  phases := [.preGraduation]
  visaTypes := [.f1]
  conditions := [isFlag "employment.optApplicationSubmitted" false]
  template := {
    title := "Schedule an OPT meeting with your DSO"
    description := "Ask your DSO for an OPT recommendation.\x7b?academic.dsoContact.email: Your DSO contact is on file.: Ask the international office who your DSO is.\x7d"
    category := "employment"
    priority := .medium
    due := some { strategy := .relative, base := some "dates.graduationDate", offset := some ⟨-100, .day⟩, businessDaysOnly := true } }
  priority := 85
  createdAt := some lastChange
  updatedAt := some lastChange
  tags := ["opt", "dso"]

/-- Practical training is applied for before graduation. -/
def trainingWindow : Rule where
  id := "f1-graduation-opt-window"
  name := "OPT application window"
  description := "OPT may be filed from 90 days before graduation"
  group := .deadlines
  phases := [.preGraduation]
  visaTypes := [.f1]
  conditions := [isGiven "dates.graduationDate", isFlag "employment.optApplicationSubmitted" false]
  template := {
    title := "File your OPT application (\x7b#days_until_graduation\x7d days until graduation)"
    description := "You graduate on \x7bdates.graduationDate\x7d. File Form I-765 once your DSO has issued the OPT recommendation."
    category := "employment"
    priority := .high
    due := some { strategy := .calculated, calculation := some "opt_application_window" }
    dependsOn := ["f1-meet-dso-opt"]
    autoComplete := some [isFlag "employment.optApplicationSubmitted" true] }
  priority := 88
  createdAt := some lastChange
  updatedAt := some lastChange
  tags := ["opt", "deadline"]

/-- A program that goes on for longer has to be extended. -/
def programExtension : Rule where
  id := "f1-i20-expiry-check"
  name := "I-20 expiring"
  description := "Request an extension before the program end date on the I-20"
  group := .documents
  phases := [.duringProgram, .preGraduation]
  visaTypes := [.f1]
  conditions := [comesWithin "dates.i20ExpiryDate" ⟨60, .day⟩]
  template := {
    title := "Request an I-20 extension"
    description := "Your I-20 program end date is approaching. Ask your DSO for an extension if you will not finish by then."
    category := "documents"
    priority := .high
    due := some { strategy := .relative, base := some "dates.i20ExpiryDate", offset := some ⟨-30, .day⟩, businessDaysOnly := true, excludeHolidays := true } }
  priority := 80
  createdAt := some lastChange
  updatedAt := some lastChange
  tags := ["i20"]

/-- Enrollment is confirmed twice a year. -/
def enrollment : Rule where
  id := "f1-enrollment-verification"
  name := "Enrollment verification"
  description := "Full-time enrollment must be confirmed every term"
  group := .academic
  phases := [.duringProgram]
  visaTypes := [.f1]
  conditions := [isGiven "academic.university"]
  template := {
    title := "Confirm full-time enrollment at \x7bacademic.university\x7d"
    description := "Register for a full course load before the term starts."
    category := "academic"
    priority := .medium
    due := some { strategy := .recurring, calculation := some "semi-annually" } }
  priority := 40
  createdAt := some lastChange
  updatedAt := some lastChange
  tags := ["enrollment"]

/-- The rules of the set, in order. -/
def students : List Rule :=
  [passportRenewal, addressChange, adviserMeeting, trainingWindow, programExtension, enrollment]

end Obligations.Bundle
