import Obligations.Schema.Moment
import Obligations.Schema.Record
import Obligations.Subject.Context

/-! # Contexts in documents

Readers for contexts that are given as records. Only the identity of the subject has to be there, and
members that are not known are ignored.
-/

namespace Obligations

open Obligations.Schema

namespace Milestones

def ofMembers (members : List (String × Value)) : Checked Milestones :=
  Milestones.mk
    <$> (Key.mk "usEntryDate" "us_entry_date").optional Reader.date members
    <*> (Key.mk "visaExpiryDate" "visa_expiry_date").optional Reader.date members
    <*> (Key.mk "passportExpiryDate" "passport_expiry_date").optional Reader.date members
    <*> (Key.mk "courseStartDate" "course_start_date").optional Reader.date members
    <*> (Key.mk "graduationDate" "graduation_date").optional Reader.date members
    <*> (Key.mk "employmentStartDate" "employment_start_date").optional Reader.date members
    <*> (Key.mk "employmentEndDate" "employment_end_date").optional Reader.date members
    <*> (Key.mk "optStartDate" "opt_start_date").optional Reader.date members
    <*> (Key.mk "optEndDate" "opt_end_date").optional Reader.date members
    <*> (Key.mk "stemOptEndDate" "stem_opt_end_date").optional Reader.date members
    <*> (Key.mk "i20ExpiryDate" "i20_expiry_date").optional Reader.date members
    <*> (Key.mk "lastAddressUpdate" "last_address_update").optional Reader.date members

def reader : Reader Milestones :=
  Reader.record ofMembers

end Milestones

namespace Contact

def ofMembers (members : List (String × Value)) : Checked Contact :=
  Contact.mk
    <$> (Key.plain "name").optional Reader.text members
    <*> (Key.plain "email").optional Reader.text members
    <*> (Key.plain "phone").optional Reader.text members

def reader : Reader Contact :=
  Reader.record ofMembers

end Contact

namespace Studies

def ofMembers (members : List (String × Value)) : Checked Studies :=
  Studies.mk
    <$> (Key.plain "university").optional Reader.text members
    <*> (Key.mk "universityId" "university_id").optional Reader.text members
    <*> (Key.mk "fieldOfStudy" "field_of_study").optional Reader.text members
    <*> (Key.mk "degreeLevel" "degree_level").optional Reader.text members
    <*> (Key.mk "cipCode" "cip_code").optional Reader.text members
    <*> (Key.mk "isSTEM" "is_stem").withDefault false Reader.bool members
    <*> (Key.plain "gpa").optional Reader.float members
    <*> (Key.mk "creditsCompleted" "credits_completed").optional Reader.int members
    <*> (Key.mk "totalCredits" "total_credits").optional Reader.int members
    <*> (Key.mk "isTransferStudent" "is_transfer_student").withDefault false Reader.bool members
    <*> (Key.mk "previousUniversities" "previous_universities").withDefault []
      (Reader.listOf Reader.text) members
    <*> (Key.mk "dsoContact" "dso_contact").optional Contact.reader members

def reader : Reader Studies :=
  Reader.record ofMembers

end Studies

namespace Employment

def ofMembers (members : List (String × Value)) : Checked Employment :=
  Employment.mk
    <$> (Key.plain "status").withDefault "Not Employed" Reader.text members
    <*> (Key.plain "employer").optional Reader.text members
    <*> (Key.mk "jobTitle" "job_title").optional Reader.text members
    <*> (Key.mk "workLocation" "work_location").optional Reader.text members
    <*> (Key.mk "isFieldRelated" "is_field_related").optional Reader.bool members
    <*> (Key.mk "authorizationType" "authorization_type").optional Reader.text members
    <*> (Key.mk "eadNumber" "ead_number").optional Reader.text members
    <*> (Key.mk "unemploymentDaysUsed" "unemployment_days_used").withDefault 0 Reader.int members
    <*> (Key.mk "maxUnemploymentDays" "max_unemployment_days").withDefault 0 Reader.int members
    <*> (Key.mk "eVerifyCompliant" "e_verify_compliant").optional Reader.bool members
    <*> (Key.mk "newJobStarted" "new_job_started").withDefault false Reader.bool members
    <*> (Key.mk "jobReportedToDSO" "job_reported_to_dso").withDefault false Reader.bool members
    <*> (Key.mk "optApplicationSubmitted" "opt_application_submitted").withDefault false
      Reader.bool members
    <*> (Key.mk "stemOptApplicationSubmitted" "stem_opt_application_submitted").withDefault false
      Reader.bool members

def reader : Reader Employment :=
  Reader.record ofMembers

end Employment

namespace Residence

def ofMembers (members : List (String × Value)) : Checked Residence :=
  Residence.mk
    <$> (Key.mk "currentAddress" "current_address").optional Reader.text members
    <*> (Key.plain "state").optional Reader.text members
    <*> (Key.mk "zipCode" "zip_code").optional Reader.text members
    <*> (Key.mk "lastMoved" "last_moved").optional Reader.date members
    <*> (Key.mk "addressReportedToSevis" "address_reported_to_sevis").withDefault false
      Reader.bool members

def reader : Reader Residence :=
  Reader.record ofMembers

end Residence

namespace Standing

def ofMembers (members : List (String × Value)) : Checked Standing :=
  Standing.mk
    <$> (Key.mk "tasksCompleted" "tasks_completed").withDefault 0 Reader.int members
    <*> (Key.mk "tasksOverdue" "tasks_overdue").withDefault 0 Reader.int members
    <*> (Key.mk "lastComplianceCheck" "last_compliance_check").optional Reader.date members
    <*> (Key.mk "riskScore" "risk_score").withDefault 0
      (Reader.intWithin (some 0) (some 100)) members
    <*> (Key.mk "warningsIssued" "warnings_issued").withDefault 0 Reader.int members
    <*> (Key.mk "completedRuleIds" "completed_rule_ids").withDefault []
      (Reader.listOf Reader.text) members

def reader : Reader Standing :=
  Reader.record ofMembers

end Standing

namespace Flags

def ofMembers (members : List (String × Value)) : Checked Flags :=
  Flags.mk
    <$> (Key.mk "hasUnemploymentPeriods" "has_unemployment_periods").withDefault false
      Reader.bool members
    <*> (Key.mk "hasTransferHistory" "has_transfer_history").withDefault false Reader.bool members
    <*> (Key.mk "isFirstTimeOpt" "is_first_time_opt").withDefault true Reader.bool members
    <*> (Key.mk "hasH1BPetition" "has_h1b_petition").withDefault false Reader.bool members
    <*> (Key.mk "planningToTravel" "planning_to_travel").withDefault false Reader.bool members
    <*> (Key.mk "addressChangeRecent" "address_change_recent").withDefault false Reader.bool members

def reader : Reader Flags :=
  Reader.record ofMembers

end Flags

namespace Context

def ofMembers (members : List (String × Value)) : Checked Context :=
  Context.mk
    <$> (Key.mk "userId" "user_id").required Reader.text members
    <*> (Key.plain "email").optional Reader.text members
    <*> (Key.plain "name").optional Reader.text members
    <*> (Key.mk "visaType" "visa_type").withDefault .f1 (Reader.code VisaType.ofCode?) members
    <*> (Key.mk "currentPhase" "current_phase").withDefault .general
      (Reader.code Phase.ofCode?) members
    <*> (Key.mk "visaStatus" "visa_status").optional Reader.text members
    <*> (Key.mk "sevisId" "sevis_id").optional Reader.text members
    <*> (Key.mk "i94Number" "i94_number").optional Reader.text members
    <*> (Key.plain "dates").withDefault {} Milestones.reader members
    <*> (Key.plain "academic").withDefault {} Studies.reader members
    <*> (Key.plain "employment").withDefault {} Employment.reader members
    <*> (Key.plain "documents").withDefault [] (Reader.mapOf Reader.bool) members
    <*> (Key.plain "location").withDefault {} Residence.reader members
    <*> (Key.plain "compliance").withDefault {} Standing.reader members
    <*> (Key.plain "flags").withDefault {} Flags.reader members
    <*> (Key.mk "universityContext" "university_context").withDefault []
      (Reader.mapOf Reader.anything) members

def reader : Reader Context :=
  Reader.record ofMembers

end Context

end Obligations
