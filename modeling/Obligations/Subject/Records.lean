import Obligations.Subject.Form
import Obligations.Subject.Loose

/-! # Contexts from records

A subject's profile, documents and tasks are loose records. From them comes the context: dates are
read, the stage and the risk are derived, and what was not given is left out. What a profile gives in
the wrong form is refused with the number of issues; what has no form at all is a mishap.
-/

namespace Obligations

open Obligations.Calendar Obligations.Number Obligations.Schema Obligations.Text

def documentKinds : List String := ["passport", "visa", "i20", "ead", "i983", "i797"]

/-- How long the stage of entry lasts, in days. -/
def initialEntryDays : Int := 30

/-- How long before graduation its stage begins, in days. -/
def graduationWindowDays : Int := 90

/-- How long before the end of practical training the stage of applying for more begins, in days. -/
def stemWindowDays : Int := 90

/-- How long a move counts as recent, in days. -/
def recentMoveDays : Int := 30

/-- How long a passport has to be valid to bear no risk, in days. -/
def passportRiskDays : Int := 180

/-- The days of unemployment allowed in practical training. -/
def optUnemploymentDays : Int := 90

/-- The days of unemployment allowed in extended practical training. -/
def stemOptUnemploymentDays : Int := 150

def riskLimit : Int := 100

/-- The value of a name in a record; only records have names. -/
def field (record : Value) (name : String) : Outcome Value :=
  match record with
  | .map members => .ok ((Value.member? name members).getD .null)
  | _ => .mishap .notRecord

def isExpired (today : Date) (document : Value) : Bool :=
  lower (document.getD "status").looseText == "expired" ||
    (match (document.getD "expiry_date").looseDate? with
     | some expiry => decide (expiry < today)
     | none => false)

def isValidDocument (today : Date) (kind : String) (document : Value) : Bool :=
  occursIn kind.toList (lower (document.getD "category").looseText).toList &&
    !isExpired today document &&
    !(["expired", "rejected"].contains (lower (document.getD "status").looseText))

def isRecord : Value → Bool
  | .map _ => true
  | _ => false

/-- Whether there is a valid document of a kind. Documents behind the first valid one are not looked
at. -/
def hasValidDocument (today : Date) (kind : String) : List Value → Outcome Bool
  | [] => .ok false
  | document :: rest =>
    if !isRecord document then .mishap .notRecord
    else if isValidDocument today kind document then .ok true
    else hasValidDocument today kind rest

/-- Whether there is a valid document, for every kind. -/
def documentStatus (today : Date) (documents : List Value) : Outcome (List (String × Bool)) :=
  documentKinds.mapM fun kind => do
    return (kind ++ "Valid", ← hasValidDocument today kind documents)

def isCompleted (task : Value) : Bool :=
  (task.getD "is_completed").isTruthy

/-- Whether a task is open after its due date. -/
def isOverdue (today : Date) (task : Value) : Bool :=
  !isCompleted task &&
    (match (task.getD "due_date").looseDate? with
     | some due => decide (due < today)
     | none => false)

def unemploymentAllowance (profile : Value) (visa : VisaType) (isStem : Bool) : Int :=
  if visa = .stemOpt || (profile.getD "is_stem_opt").isTruthy then stemOptUnemploymentDays
  else if visa = .opt then if isStem then stemOptUnemploymentDays else optUnemploymentDays
  else 0

/-- The part of the risk that comes from the days of unemployment: fifty times their share of the
allowance, rounded down. The share and the product are each rounded to a float first. -/
def unemploymentRisk (used allowance : Int) : Outcome Int :=
  if allowance ≤ 0 then .ok 0
  else
    match Binary64.ofQuotient? used allowance with
    | none => .mishap .tooLarge
    | some share =>
      match (share.mul (Binary64.ofDecimal false 50 0)).floor? with
      | some points => .ok points
      | none => .mishap .tooLarge

/-- The risk that a subject misses an obligation, from 0 to 100. -/
def riskOf (today : Date) (overdue expired used allowance : Int) (passportExpiry : Option Date) :
    Outcome Int := do
  let unemployment ← unemploymentRisk used allowance
  let passport := match passportExpiry with
    | some expiry => if today.daysUntil expiry < passportRiskDays then 20 else 0
    | none => 0
  return max 0 (min (overdue * 10 + expired * 15 + unemployment + passport) riskLimit)

/-- The stage of a student who has not finished and is not about to. -/
def studentPhase? (dates : Milestones) (today : Date) : Option Phase :=
  let aroundGraduation : Option Phase := do
    let graduation ← dates.graduation
    let left := today.daysUntil graduation
    if 0 < left && left ≤ graduationWindowDays then return .preGraduation
    else if graduation ≤ today && !dates.optStart.any (fun start => decide (start ≤ today)) then
      return .postGraduation
    else none
  aroundGraduation.or <| do
    let start ← dates.courseStart
    guard (start ≤ today)
    return .duringProgram

def trainingPhase (profile : Value) (dates : Milestones) (isStem : Bool) (today : Date) : Phase :=
  let isNearEnd := match dates.optEnd with
    | some finish => decide (0 ≤ today.daysUntil finish ∧ today.daysUntil finish ≤ stemWindowDays)
    | none => false
  if upper (profile.getD "opt_type").looseText == "STEM" || (profile.getD "is_stem_opt").isTruthy then
    .stemActive
  else if isNearEnd && isStem then .stemApplication
  else .optActive

/-- The stage that a subject is in; the first one that fits counts. -/
def phaseOf (profile : Value) (visa : VisaType) (dates : Milestones) (isStem : Bool) (today : Date) :
    Phase :=
  let inTraining := upper (profile.getD "employment_status").looseText == "OPT" ||
    dates.optStart.isSome
  match dates.usEntry with
  | none => .preArrival
  | some entry =>
    if today < entry then .preArrival
    else if entry.daysUntil today ≤ initialEntryDays then .initialEntry
    else
      match (if visa = .f1 then studentPhase? dates today else none) with
      | some phase => phase
      | none =>
        if inTraining then trainingPhase profile dates isStem today
        else if visa = .h1b || (profile.getD "h1b_petition_filed").isTruthy then .statusChange
        else .general

namespace Milestones

def ofProfile (profile : Value) : Milestones :=
  let date := fun name => (profile.getD name).looseDate?
  { usEntry := date "us_entry_date"
    visaExpiry := date "visa_expiry_date"
    passportExpiry := date "passport_expiry_date"
    courseStart := date "course_start_date"
    graduation := date "graduation_date"
    employmentStart := date "employment_start_date"
    employmentEnd := date "employment_end_date"
    optStart := date "opt_start_date"
    optEnd := date "opt_end_date"
    stemOptEnd := date "stem_opt_end_date"
    i20Expiry := date "i20_expiry_date"
    lastAddressUpdate := date "last_address_update" }

end Milestones

/-- Members of a record that are taken over from a profile, each under its new name. -/
def takenOver (profile : Value) (names : List (String × String)) : List (String × Value) :=
  names.map fun (new, old) => (new, profile.getD old)

/-- A truth value for what a profile says under a name. -/
def flagIn (profile : Value) (name : String) : Value :=
  .bool (profile.getD name).isTruthy

namespace Studies

def ofProfile (profile : Value) : Outcome Studies := do
  let previous ← (profile.getD "previous_universities").looseList
  let contact := profile.getD "dso_contact"
  let contact ← match contact with
    | .map members => do
      let _ ← Outcome.ofChecked (Contact.ofMembers members)
      pure contact
    | _ => pure .null
  .ofChecked (ofMembers
    (takenOver profile [
      ("university", "university"), ("university_id", "university_id"),
      ("field_of_study", "field_of_study"), ("degree_level", "degree_level"),
      ("cip_code", "cip_code"), ("gpa", "gpa"), ("credits_completed", "credits_completed"),
      ("total_credits", "total_credits")] ++
    [("is_stem", flagIn profile "is_stem"),
     ("is_transfer_student", flagIn profile "is_transfer_student"),
     ("previous_universities", .list previous),
     ("dso_contact", contact)]))

end Studies

namespace Employment

def ofProfile (profile : Value) (visa : VisaType) (isStem : Bool) : Outcome Employment := do
  let used ← (profile.getD "unemployment_days").looseInt
  .ofChecked (ofMembers
    (takenOver profile [
      ("employer", "employer_name"), ("job_title", "job_title"),
      ("work_location", "work_location"), ("is_field_related", "is_field_related"),
      ("authorization_type", "auth_type"), ("ead_number", "ead_number"),
      ("e_verify_compliant", "e_verify_compliant")] ++
    [("status", (profile.getD "employment_status").truthy?.getD (.text "Not Employed")),
     ("unemployment_days_used", .int used),
     ("max_unemployment_days", .int (unemploymentAllowance profile visa isStem)),
     ("new_job_started", flagIn profile "new_job_started"),
     ("job_reported_to_dso", flagIn profile "job_reported_to_dso"),
     ("opt_application_submitted", flagIn profile "opt_application_submitted"),
     ("stem_opt_application_submitted", flagIn profile "stem_opt_application_submitted")]))

end Employment

namespace Residence

def ofProfile (profile : Value) : Outcome Residence :=
  .ofChecked (ofMembers
    (takenOver profile [("current_address", "address"), ("state", "state"), ("zip_code", "zip_code")] ++
    [("last_moved", .ofOption .date (profile.getD "last_moved_date").looseDate?),
     ("address_reported_to_sevis", flagIn profile "address_reported_to_sevis")]))

end Residence

structure Records where
  profile : Value
  documents : List Value := []
  tasks : List Value := []

namespace Standing

def ofRecords (records : Records) (dates : Milestones) (employment : Employment) (today : Date) :
    Outcome Standing := do
  let completed := records.tasks.filter isCompleted
  let overdue := (records.tasks.filter (isOverdue today)).length
  let expired := (records.documents.filter (isExpired today)).length
  let risk ← riskOf today overdue expired employment.unemploymentDaysUsed
    employment.maxUnemploymentDays dates.passportExpiry
  let warnings ← (records.profile.getD "warnings_issued").looseInt
  let ids := (completed.map (·.getD "rule_id")).filter Value.isTruthy
  .ofChecked (ofMembers [
    ("tasks_completed", .int completed.length),
    ("tasks_overdue", .int overdue),
    ("last_compliance_check",
      .ofOption .date (records.profile.getD "last_compliance_check").looseDate?),
    ("risk_score", .int risk),
    ("warnings_issued", .int warnings),
    ("completed_rule_ids", .list ids)])

end Standing

namespace Flags

def isRecentMove (lastMoved : Option Date) (today : Date) : Bool :=
  match lastMoved with
  | some moved => decide (0 ≤ moved.daysUntil today ∧ moved.daysUntil today ≤ recentMoveDays)
  | none => false

def ofProfile (profile : Value) (studies : Studies) (employment : Employment) (residence : Residence)
    (today : Date) : Flags where
  hasUnemploymentPeriods := decide (0 < employment.unemploymentDaysUsed)
  hasTransferHistory := studies.isTransferStudent || !studies.previousUniversities.isEmpty
  isFirstTimeOpt := !(profile.getD "previous_opt_periods").isTruthy
  hasH1bPetition := (profile.getD "h1b_petition_filed").isTruthy
  planningToTravel := (profile.getD "planning_travel").isTruthy
  addressChangeRecent := isRecentMove residence.lastMoved today

end Flags

/-- Entries whose keys are texts; every other key is an issue. -/
def textEntries : List (Value × Value) → Checked (List (String × Value))
  | [] => .ok []
  | (key, value) :: rest =>
    Checked.both (fun key others => (key, value) :: others) (Reader.text key) (textEntries rest)

namespace Records

def context (records : Records) (subjectId : String) (today : Date) : Outcome Context := do
  let profile := records.profile
  let visaField ← field profile "visa_type"
  let visa := VisaType.ofLoose visaField
  let dates := Milestones.ofProfile profile
  let studies ← Studies.ofProfile profile
  let employment ← Employment.ofProfile profile visa studies.isStem
  let residence ← Residence.ofProfile profile
  let documents ← documentStatus today records.documents
  if !(records.documents ++ records.tasks).all isRecord then Outcome.mishap .notRecord
  else
    let standing ← Standing.ofRecords records dates employment today
    let entries ← (profile.getD "university_context").looseEntries
    .ofChecked (
      (fun email name visaStatus sevisId i94Number universityContext => {
        subjectId := subjectId
        email := email
        name := name
        visa := visa
        phase := phaseOf profile visa dates studies.isStem today
        visaStatus := visaStatus
        sevisId := sevisId
        i94Number := i94Number
        dates := dates
        studies := studies
        employment := employment
        documents := documents
        residence := residence
        standing := standing
        flags := Flags.ofProfile profile studies employment residence today
        universityContext := universityContext })
      <$> Reader.optional Reader.text (profile.getD "email")
      <*> Reader.optional Reader.text
        ((profile.getD "name").truthy?.getD (profile.getD "full_name"))
      <*> Reader.optional Reader.text (profile.getD "visa_status")
      <*> Reader.optional Reader.text (profile.getD "sevis_id")
      <*> Reader.optional Reader.text (profile.getD "i94_number")
      <*> textEntries entries)

end Records

/-- The context of a subject. A profile with issues makes the context invalid. -/
def Context.ofRecords (subjectId : String) (records : Records) (today : Date) : Outcome Context :=
  match records.context subjectId today with
  | .error (.issues found) =>
    .fail (.of .context
      ("Profile data is invalid: " ++ intText found.length ++ " validation errors")
      { subjectId := some subjectId })
  | outcome => outcome

/-- What came of asking for a part of a subject's records. -/
inductive Fetched (α : Type) where
  | found (part : α)
  | failed (reason : String)

namespace Fetched

/-- The part that was found, or another one. -/
def getD {α : Type} (fetched : Fetched α) (fallback : α) : α :=
  match fetched with
  | .found part => part
  | .failed _ => fallback

end Fetched

/-- What came of asking for all of a subject's records. -/
structure FetchedRecords where
  profile : Fetched Value
  documents : Fetched (List Value)
  tasks : Fetched (List Value)

/-- The context of a subject whose records have been asked for. Without a profile there is none;
documents and tasks may be missing. -/
def Context.ofFetched (subjectId : String) (fetched : FetchedRecords) (today : Date) :
    Outcome Context :=
  let refuse := fun message =>
    Outcome.fail (.of .context message { subjectId := some subjectId })
  match fetched.profile with
  | .failed reason => refuse ("Failed to fetch user profile: " ++ reason)
  | .found profile =>
    if profile.isTruthy then
      Context.ofRecords subjectId
        ⟨profile, fetched.documents.getD [], fetched.tasks.getD []⟩ today
    else refuse "User profile not found"

end Obligations
