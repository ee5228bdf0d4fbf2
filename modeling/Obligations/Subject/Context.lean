import Obligations.Value.Basic

/-! # Contexts

What is known of a subject at one moment: status and stage, important dates, studies, employment,
documents, address, and how well past obligations were met. Rules address it by the names of its
record.
-/

namespace Obligations

open Obligations.Calendar Obligations.Number

/-- The dates of a subject's stay. -/
structure Milestones where
  usEntry : Option Date := none
  visaExpiry : Option Date := none
  passportExpiry : Option Date := none
  courseStart : Option Date := none
  graduation : Option Date := none
  employmentStart : Option Date := none
  employmentEnd : Option Date := none
  optStart : Option Date := none
  optEnd : Option Date := none
  stemOptEnd : Option Date := none
  i20Expiry : Option Date := none
  lastAddressUpdate : Option Date := none

namespace Milestones

def named (dates : Milestones) : List (String × Option Date) :=
  [("usEntryDate", dates.usEntry),
   ("visaExpiryDate", dates.visaExpiry),
   ("passportExpiryDate", dates.passportExpiry),
   ("courseStartDate", dates.courseStart),
   ("graduationDate", dates.graduation),
   ("employmentStartDate", dates.employmentStart),
   ("employmentEndDate", dates.employmentEnd),
   ("optStartDate", dates.optStart),
   ("optEndDate", dates.optEnd),
   ("stemOptEndDate", dates.stemOptEnd),
   ("i20ExpiryDate", dates.i20Expiry),
   ("lastAddressUpdate", dates.lastAddressUpdate)]

def toValue (dates : Milestones) : Value :=
  .map (dates.named.map fun (name, date) => (name, .ofOption .date date))

end Milestones

/-- Whom to ask at a school. -/
structure Contact where
  name : Option String := none
  email : Option String := none
  phone : Option String := none

namespace Contact

def toValue (contact : Contact) : Value :=
  .map [
    ("name", .ofOption .text contact.name),
    ("email", .ofOption .text contact.email),
    ("phone", .ofOption .text contact.phone)]

end Contact

structure Studies where
  university : Option String := none
  universityId : Option String := none
  fieldOfStudy : Option String := none
  degreeLevel : Option String := none
  cipCode : Option String := none
  isStem : Bool := false
  gpa : Option Binary64 := none
  creditsCompleted : Option Int := none
  totalCredits : Option Int := none
  isTransferStudent : Bool := false
  previousUniversities : List String := []
  dsoContact : Option Contact := none

namespace Studies

def toValue (studies : Studies) : Value :=
  .map [
    ("university", .ofOption .text studies.university),
    ("universityId", .ofOption .text studies.universityId),
    ("fieldOfStudy", .ofOption .text studies.fieldOfStudy),
    ("degreeLevel", .ofOption .text studies.degreeLevel),
    ("cipCode", .ofOption .text studies.cipCode),
    ("isSTEM", .bool studies.isStem),
    ("gpa", .ofOption .float studies.gpa),
    ("creditsCompleted", .ofOption .int studies.creditsCompleted),
    ("totalCredits", .ofOption .int studies.totalCredits),
    ("isTransferStudent", .bool studies.isTransferStudent),
    ("previousUniversities", .list (studies.previousUniversities.map .text)),
    ("dsoContact", .ofOption Contact.toValue studies.dsoContact)]

end Studies

structure Employment where
  status : String := "Not Employed"
  employer : Option String := none
  jobTitle : Option String := none
  workLocation : Option String := none
  isFieldRelated : Option Bool := none
  authorizationType : Option String := none
  eadNumber : Option String := none
  unemploymentDaysUsed : Int := 0
  maxUnemploymentDays : Int := 0
  eVerifyCompliant : Option Bool := none
  newJobStarted : Bool := false
  jobReported : Bool := false
  optApplicationSubmitted : Bool := false
  stemOptApplicationSubmitted : Bool := false

namespace Employment

def toValue (employment : Employment) : Value :=
  .map [
    ("status", .text employment.status),
    ("employer", .ofOption .text employment.employer),
    ("jobTitle", .ofOption .text employment.jobTitle),
    ("workLocation", .ofOption .text employment.workLocation),
    ("isFieldRelated", .ofOption .bool employment.isFieldRelated),
    ("authorizationType", .ofOption .text employment.authorizationType),
    ("eadNumber", .ofOption .text employment.eadNumber),
    ("unemploymentDaysUsed", .int employment.unemploymentDaysUsed),
    ("maxUnemploymentDays", .int employment.maxUnemploymentDays),
    ("eVerifyCompliant", .ofOption .bool employment.eVerifyCompliant),
    ("newJobStarted", .bool employment.newJobStarted),
    ("jobReportedToDSO", .bool employment.jobReported),
    ("optApplicationSubmitted", .bool employment.optApplicationSubmitted),
    ("stemOptApplicationSubmitted", .bool employment.stemOptApplicationSubmitted)]

end Employment

/-- Where a subject lives. -/
structure Residence where
  currentAddress : Option String := none
  state : Option String := none
  zipCode : Option String := none
  lastMoved : Option Date := none
  addressReported : Bool := false

namespace Residence

def toValue (residence : Residence) : Value :=
  .map [
    ("currentAddress", .ofOption .text residence.currentAddress),
    ("state", .ofOption .text residence.state),
    ("zipCode", .ofOption .text residence.zipCode),
    ("lastMoved", .ofOption .date residence.lastMoved),
    ("addressReportedToSevis", .bool residence.addressReported)]

end Residence

/-- How well a subject has met its obligations. -/
structure Standing where
  tasksCompleted : Int := 0
  tasksOverdue : Int := 0
  lastCheck : Option Date := none
  /-- From 0 to 100. -/
  riskScore : Int := 0
  warningsIssued : Int := 0
  completedRules : List String := []

namespace Standing

def toValue (standing : Standing) : Value :=
  .map [
    ("tasksCompleted", .int standing.tasksCompleted),
    ("tasksOverdue", .int standing.tasksOverdue),
    ("lastComplianceCheck", .ofOption .date standing.lastCheck),
    ("riskScore", .int standing.riskScore),
    ("warningsIssued", .int standing.warningsIssued),
    ("completedRuleIds", .list (standing.completedRules.map .text))]

end Standing

/-- Yes-or-no facts about a subject. -/
structure Flags where
  hasUnemploymentPeriods : Bool := false
  hasTransferHistory : Bool := false
  isFirstTimeOpt : Bool := true
  hasH1bPetition : Bool := false
  planningToTravel : Bool := false
  addressChangeRecent : Bool := false

namespace Flags

def toValue (flags : Flags) : Value :=
  .map [
    ("hasUnemploymentPeriods", .bool flags.hasUnemploymentPeriods),
    ("hasTransferHistory", .bool flags.hasTransferHistory),
    ("isFirstTimeOpt", .bool flags.isFirstTimeOpt),
    ("hasH1BPetition", .bool flags.hasH1bPetition),
    ("planningToTravel", .bool flags.planningToTravel),
    ("addressChangeRecent", .bool flags.addressChangeRecent)]

end Flags

/-- What is known of a subject. -/
structure Context where
  subjectId : String
  email : Option String := none
  name : Option String := none
  visa : VisaType := .f1
  phase : Phase := .general
  visaStatus : Option String := none
  sevisId : Option String := none
  i94Number : Option String := none
  dates : Milestones := {}
  studies : Studies := {}
  employment : Employment := {}
  /-- Whether there is a valid document, by kind. -/
  documents : List (String × Bool) := []
  residence : Residence := {}
  standing : Standing := {}
  flags : Flags := {}
  universityContext : List (String × Value) := []

namespace Context

/-- The record that rules and templates look fields up in. -/
def toValue (context : Context) : Value :=
  .map [
    ("userId", .text context.subjectId),
    ("email", .ofOption .text context.email),
    ("name", .ofOption .text context.name),
    ("visaType", .visa context.visa),
    ("currentPhase", .phase context.phase),
    ("visaStatus", .ofOption .text context.visaStatus),
    ("sevisId", .ofOption .text context.sevisId),
    ("i94Number", .ofOption .text context.i94Number),
    ("dates", context.dates.toValue),
    ("academic", context.studies.toValue),
    ("employment", context.employment.toValue),
    ("documents", .map (context.documents.map fun (kind, valid) => (kind, .bool valid))),
    ("location", context.residence.toValue),
    ("compliance", context.standing.toValue),
    ("flags", context.flags.toValue),
    ("universityContext", .map context.universityContext)]

end Context

end Obligations
