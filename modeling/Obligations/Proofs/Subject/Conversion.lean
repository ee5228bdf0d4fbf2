import Obligations.Proofs.Outcome
import Obligations.Subject.Records
import Mathlib.Logic.Basic

/-! # Records that cannot be converted

A subject's records are loose, and some of what people type in has no whole number, list or map to it.
Such records have no context, and what stands against it is no failure of the context but a mishap.
-/

namespace Obligations

open Obligations.Calendar Obligations.Number Obligations.Schema

namespace Value

/-- Whether a whole number can be made of a value. -/
def IsCountable (value : Value) : Prop :=
  value.isTruthy = true →
    match value with
    | .int _ | .bool _ => True
    | .float x => x.truncated?.isSome
    | .text content => ∃ n, readInt content.toList = .ok n
    | _ => False

/-- Whether a list can be made of a value. -/
def IsListable (value : Value) : Prop :=
  value.isTruthy = true → value.parts?.isSome

/-- Whether a value is made of a key and what stands under it. -/
def IsPair (value : Value) : Prop :=
  ∃ key content, value.parts? = some [key, content] ∧ key.canBeKey = true

/-- Whether entries can be made of a value. -/
def IsPairing (value : Value) : Prop :=
  value.isTruthy = true →
    (∃ members, value = .map members) ∨
      ∃ parts, value.parts? = some parts ∧ ∀ part ∈ parts, part.IsPair

variable {value : Value}

theorem looseInt_mishap_iff : value.looseInt.EndsIn Problem.isMishap ↔ ¬ value.IsCountable := by
  by_cases truthy : value.isTruthy = true
  · have counted : ¬ (!value.isTruthy) = true := by simp [truthy]
    cases value with
    | float x =>
      rw [looseInt, if_neg counted, IsCountable, forall_prop_of_true truthy]
      cases x.truncated? <;> simp [Problem.isMishap]
    | text content =>
      rw [looseInt, if_neg counted, IsCountable, forall_prop_of_true truthy]
      cases readInt content.toList with
      | ok n => simp
      | error fault => cases fault <;> simp [Problem.isMishap]
    | _ => simp [looseInt, IsCountable, truthy, Problem.isMishap]
  · simp [looseInt, IsCountable, truthy]

theorem looseList_mishap_iff : value.looseList.EndsIn Problem.isMishap ↔ ¬ value.IsListable := by
  rw [looseList, IsListable]
  by_cases truthy : value.isTruthy = true
  · simp only [truthy, Bool.not_true, Bool.false_eq_true, if_false, true_imp_iff]
    cases value.parts? <;> simp [Problem.isMishap]
  · simp [truthy]

theorem entriesOfPairs_mishap_iff (entries : List (Value × Value)) (parts : List Value) :
    (entriesOfPairs entries parts).EndsIn Problem.isMishap ↔ ¬ ∀ part ∈ parts, part.IsPair := by
  induction parts generalizing entries with
  | nil => simp [entriesOfPairs]
  | cons part rest ih =>
    rw [entriesOfPairs, List.forall_mem_cons]
    split
    next key content parts =>
      have pair : part.IsPair ↔ key.canBeKey = true := by
        simp [IsPair, parts]
      split
      next usable => rw [ih, pair]; simp [usable]
      next unusable => rw [pair]; simp [unusable, Problem.isMishap]
    next parts uneven found =>
      have notPair : ¬ part.IsPair := by
        rintro ⟨key, content, same, _⟩
        exact uneven key content (Option.some.inj (found.symm.trans same))
      simp [notPair, Problem.isMishap]
    next missing =>
      have notPair : ¬ part.IsPair := by
        rintro ⟨key, content, same, _⟩
        cases missing.symm.trans same
      simp [notPair, Problem.isMishap]

private theorem looseEntries_of_parts (truthy : value.isTruthy = true)
    (notMap : ∀ members, value ≠ .map members) :
    value.looseEntries =
      match value.parts? with
      | some parts => entriesOfPairs [] parts
      | none => .mishap .unusable := by
  have counted : ¬ (!value.isTruthy) = true := by simp [truthy]
  cases value with
  | map members => exact (notMap members rfl).elim
  | _ => exact if_neg counted

theorem looseEntries_mishap_iff :
    value.looseEntries.EndsIn Problem.isMishap ↔ ¬ value.IsPairing := by
  rw [IsPairing]
  by_cases truthy : value.isTruthy = true
  · by_cases isMap : ∃ members, value = .map members
    · obtain ⟨members, rfl⟩ := isMap
      simp [looseEntries, truthy]
    · rw [looseEntries_of_parts truthy (not_exists.mp isMap), forall_prop_of_true truthy]
      cases value.parts? with
      | none => simp [isMap, Problem.isMishap]
      | some parts => simpa [isMap] using entriesOfPairs_mishap_iff [] parts
  · simp [looseEntries, truthy]

/-- No failure stands against a whole number. -/
@[simp] theorem not_isFailure_looseInt : ¬ value.looseInt.EndsIn Problem.isFailure := by
  by_cases truthy : (!value.isTruthy) = true
  · simp [looseInt, truthy]
  · cases value with
    | float x =>
      rw [looseInt, if_neg truthy]
      cases x.truncated? <;> simp [Problem.isFailure]
    | text content =>
      rw [looseInt, if_neg truthy]
      cases readInt content.toList with
      | ok n => simp
      | error fault => cases fault <;> simp [Problem.isFailure]
    | _ => simp [looseInt, truthy, Problem.isFailure]

@[simp] theorem not_isFailure_looseList : ¬ value.looseList.EndsIn Problem.isFailure := by
  rw [looseList]
  split
  · simp
  · cases value.parts? <;> simp [Problem.isFailure]

private theorem not_isFailure_entriesOfPairs (entries : List (Value × Value)) (parts : List Value) :
    ¬ (entriesOfPairs entries parts).EndsIn Problem.isFailure := by
  induction parts generalizing entries with
  | nil => simp [entriesOfPairs]
  | cons part rest ih =>
    rw [entriesOfPairs]
    split
    · split
      · exact ih _
      · simp [Problem.isFailure]
    · simp [Problem.isFailure]
    · simp [Problem.isFailure]

@[simp] theorem not_isFailure_looseEntries : ¬ value.looseEntries.EndsIn Problem.isFailure := by
  by_cases truthy : value.isTruthy = true
  · by_cases isMap : ∃ members, value = .map members
    · obtain ⟨members, rfl⟩ := isMap
      simp [looseEntries, truthy]
    · rw [looseEntries_of_parts truthy (not_exists.mp isMap)]
      cases value.parts? with
      | none => simp [Problem.isFailure]
      | some parts => exact not_isFailure_entriesOfPairs [] parts
  · simp [looseEntries, truthy]

end Value

theorem field_eq_ok {record : Value} (isMap : isRecord record = true) (name : String) :
    field record name = .ok (record.getD name) := by
  cases record with
  | map members => rfl
  | _ => cases isMap

theorem hasValidDocument_eq_ok (today : Date) (kind : String) {documents : List Value}
    (areRecords : ∀ document ∈ documents, isRecord document = true) :
    ∃ valid, hasValidDocument today kind documents = .ok valid := by
  induction documents with
  | nil => exact ⟨false, rfl⟩
  | cons document rest ih =>
    obtain ⟨first, others⟩ := List.forall_mem_cons.mp areRecords
    rw [hasValidDocument, if_neg (by simp [first])]
    split
    · exact ⟨true, rfl⟩
    · exact ih others

/-- Documents that are records have a status, whatever stands in them. -/
theorem documentStatus_eq_ok (today : Date) {documents : List Value}
    (areRecords : ∀ document ∈ documents, isRecord document = true) :
    ∃ statuses, documentStatus today documents = .ok statuses := by
  rw [documentStatus]
  induction documentKinds with
  | nil => exact ⟨[], rfl⟩
  | cons kind rest ih =>
    obtain ⟨valid, found⟩ := hasValidDocument_eq_ok today kind areRecords
    obtain ⟨others, same⟩ := ih
    rw [List.mapM_cons, found, same]
    exact ⟨_, rfl⟩

section Parts

variable (profile : Value)

/-- Studies are read without a mishap exactly where the earlier universities make a list. -/
theorem Studies.ofProfile_mishap_iff :
    (Studies.ofProfile profile).EndsIn Problem.isMishap ↔
      ¬ (profile.getD "previous_universities").IsListable := by
  rw [Studies.ofProfile, Outcome.endsIn_bind, Value.looseList_mishap_iff]
  refine or_iff_left ?_
  rintro ⟨previous, _, ended⟩
  dsimp only at ended
  split at ended <;> simp [Outcome.endsIn_bind] at ended

@[simp] theorem Studies.not_isFailure_ofProfile :
    ¬ (Studies.ofProfile profile).EndsIn Problem.isFailure := by
  rw [Studies.ofProfile, Outcome.endsIn_bind]
  rintro (ended | ⟨previous, _, ended⟩)
  · simp at ended
  · dsimp only at ended
    split at ended <;> simp [Outcome.endsIn_bind] at ended

variable (visa : VisaType) (isStem : Bool)

/-- Employment is read without a mishap exactly where the days of unemployment make a whole number. -/
theorem Employment.ofProfile_mishap_iff :
    (Employment.ofProfile profile visa isStem).EndsIn Problem.isMishap ↔
      ¬ (profile.getD "unemployment_days").IsCountable := by
  simp [Employment.ofProfile, Outcome.endsIn_bind, Value.looseInt_mishap_iff]

@[simp] theorem Employment.not_isFailure_ofProfile :
    ¬ (Employment.ofProfile profile visa isStem).EndsIn Problem.isFailure := by
  simp [Employment.ofProfile, Outcome.endsIn_bind]

@[simp] theorem Residence.not_isMishap_ofProfile :
    ¬ (Residence.ofProfile profile).EndsIn Problem.isMishap :=
  Outcome.not_isMishap_ofChecked _

@[simp] theorem Residence.not_isFailure_ofProfile :
    ¬ (Residence.ofProfile profile).EndsIn Problem.isFailure :=
  Outcome.not_isFailure_ofChecked _

end Parts

/-- Nothing but too great a share stands against a risk. -/
theorem unemploymentRisk_cases (used allowance : Int) :
    (∃ points, unemploymentRisk used allowance = .ok points) ∨
      unemploymentRisk used allowance = .mishap .tooLarge := by
  rw [unemploymentRisk]
  split
  · exact Or.inl ⟨0, rfl⟩
  · cases Binary64.ofQuotient? used allowance with
    | none => exact Or.inr rfl
    | some share =>
      dsimp only
      cases (share.mul (Binary64.ofDecimal false 50 0)).floor? with
      | none => exact Or.inr rfl
      | some points => exact Or.inl ⟨points, rfl⟩

theorem riskOf_mishap_iff (today : Date) (overdue expired used allowance : Int)
    (passportExpiry : Option Date) :
    (riskOf today overdue expired used allowance passportExpiry).EndsIn Problem.isMishap ↔
      unemploymentRisk used allowance = .mishap .tooLarge := by
  unfold riskOf
  rw [Outcome.endsIn_bind]
  rcases unemploymentRisk_cases used allowance with ⟨points, same⟩ | same
  · simp [same, Outcome.mishap]
  · simp [same, Problem.isMishap]

theorem riskOf_eq_ok (today : Date) (overdue expired : Int) {used allowance : Int}
    (passportExpiry : Option Date)
    (small : unemploymentRisk used allowance ≠ .mishap .tooLarge) :
    ∃ risk, riskOf today overdue expired used allowance passportExpiry = .ok risk := by
  obtain ⟨points, same⟩ := (unemploymentRisk_cases used allowance).resolve_right small
  unfold riskOf
  rw [same]
  exact ⟨_, rfl⟩

@[simp] theorem not_isFailure_riskOf (today : Date) (overdue expired used allowance : Int)
    (passportExpiry : Option Date) :
    ¬ (riskOf today overdue expired used allowance passportExpiry).EndsIn Problem.isFailure := by
  unfold riskOf
  rw [Outcome.endsIn_bind]
  rcases unemploymentRisk_cases used allowance with ⟨points, same⟩ | same <;>
    simp [same, Problem.isFailure]

namespace Standing

variable (records : Records) (dates : Milestones) (employment : Employment) (today : Date)

/-- A standing is worked out without a mishap where the risk and the number of warnings are. -/
theorem ofRecords_mishap_iff :
    (ofRecords records dates employment today).EndsIn Problem.isMishap ↔
      unemploymentRisk employment.unemploymentDaysUsed employment.maxUnemploymentDays =
        .mishap .tooLarge ∨
        ¬ (records.profile.getD "warnings_issued").IsCountable := by
  rw [ofRecords]
  simp only [Outcome.endsIn_bind, riskOf_mishap_iff, Value.looseInt_mishap_iff,
    Outcome.not_isMishap_ofChecked,
    and_false, exists_false, or_false]
  refine or_congr_right' fun small => ?_
  obtain ⟨risk, same⟩ := riskOf_eq_ok today (records.tasks.filter (isOverdue today)).length
    (records.documents.filter (isExpired today)).length dates.passportExpiry small
  simp [same]

@[simp] theorem not_isFailure_ofRecords :
    ¬ (ofRecords records dates employment today).EndsIn Problem.isFailure := by
  simp [ofRecords, Outcome.endsIn_bind]

end Standing

namespace Records

/-- Records of which each is a map, which is what those who keep them promise. -/
structure AreRecords (records : Records) : Prop where
  profile : isRecord records.profile = true
  documents : ∀ document ∈ records.documents, isRecord document = true
  tasks : ∀ task ∈ records.tasks, isRecord task = true

/-- Whether the parts of a profile are read, and what they are. -/
structure Reads (records : Records) (studies : Studies) (employment : Employment)
    (residence : Residence) :
    Prop where
  ofStudies : Studies.ofProfile records.profile = .ok studies
  ofEmployment : Employment.ofProfile records.profile (VisaType.ofLoose (records.profile.getD "visa_type"))
    studies.isStem = .ok employment
  ofResidence : Residence.ofProfile records.profile = .ok residence

/-- What there can be in records that no context can be made of, and that is not refused either. -/
inductive Stumbles (records : Records) (today : Date) : Prop where
  | universities (unlistable : ¬ (records.profile.getD "previous_universities").IsListable)
  | unemployment {studies : Studies} (read : Studies.ofProfile records.profile = .ok studies)
      (uncountable : ¬ (records.profile.getD "unemployment_days").IsCountable)
  | risk {studies : Studies} {employment : Employment} {residence : Residence}
      (read : records.Reads studies employment residence)
      (tooLarge : unemploymentRisk employment.unemploymentDaysUsed employment.maxUnemploymentDays =
        .mishap .tooLarge)
  | warnings {studies : Studies} {employment : Employment} {residence : Residence}
      (read : records.Reads studies employment residence)
      (uncountable : ¬ (records.profile.getD "warnings_issued").IsCountable)
  | university {studies : Studies} {employment : Employment} {residence : Residence} {standing : Standing}
      (read : records.Reads studies employment residence)
      (stands : Standing.ofRecords records (Milestones.ofProfile records.profile) employment today =
        .ok standing)
      (unpaired : ¬ (records.profile.getD "university_context").IsPairing)

theorem AreRecords.all {records : Records} (given : records.AreRecords) :
    (records.documents ++ records.tasks).all isRecord = true := by
  rw [List.all_append, Bool.and_eq_true, List.all_eq_true, List.all_eq_true]
  exact ⟨given.documents, given.tasks⟩

variable {records : Records} (given : records.AreRecords) (subjectId : String) (today : Date)

include given

/-- Records end in a mishap exactly where they hold something to stumble over. -/
theorem context_mishap_iff :
    (records.context subjectId today).EndsIn Problem.isMishap ↔ records.Stumbles today := by
  obtain ⟨statuses, status⟩ := documentStatus_eq_ok today given.documents
  rw [Records.context]
  simp only [field_eq_ok given.profile, status, given.all, Outcome.endsIn_bind,
    Studies.ofProfile_mishap_iff,
    Employment.ofProfile_mishap_iff, Residence.not_isMishap_ofProfile, Outcome.not_isMishap_ofChecked,
    Outcome.not_endsIn_ok, Standing.ofRecords_mishap_iff, Value.looseEntries_mishap_iff, Bool.not_true,
    Bool.false_eq_true, if_false, false_or, and_false, exists_false, or_false, Except.ok.injEq,
    exists_eq_left']
  constructor
  · rintro (unlistable | ⟨studies, read, uncountable | ⟨employment, readNext, residence, readLast,
      (tooLarge | uncountable) | ⟨standing, stands, unpaired⟩⟩⟩)
    · exact .universities unlistable
    · exact .unemployment read uncountable
    · exact .risk ⟨read, readNext, readLast⟩ tooLarge
    · exact .warnings ⟨read, readNext, readLast⟩ uncountable
    · exact .university ⟨read, readNext, readLast⟩ stands unpaired
  · intro stumbles
    cases stumbles with
    | universities unlistable => exact Or.inl unlistable
    | unemployment read uncountable => exact Or.inr ⟨_, read, Or.inl uncountable⟩
    | risk read tooLarge =>
      exact Or.inr ⟨_, read.ofStudies,
        Or.inr ⟨_, read.ofEmployment, _, read.ofResidence, Or.inl (Or.inl tooLarge)⟩⟩
    | warnings read uncountable =>
      exact Or.inr ⟨_, read.ofStudies,
        Or.inr ⟨_, read.ofEmployment, _, read.ofResidence, Or.inl (Or.inr uncountable)⟩⟩
    | university read stands unpaired =>
      exact Or.inr ⟨_, read.ofStudies,
        Or.inr ⟨_, read.ofEmployment, _, read.ofResidence, Or.inr ⟨_, stands, unpaired⟩⟩⟩

/-- Records never end in a failure of their own: they are refused with issues, or stumbled over. -/
theorem not_isFailure_context : ¬ (records.context subjectId today).EndsIn Problem.isFailure := by
  obtain ⟨statuses, status⟩ := documentStatus_eq_ok today given.documents
  rw [Records.context]
  simp [-List.all_append, field_eq_ok given.profile, status, given.all, Outcome.endsIn_bind]

end Records

def Records.fetched (records : Records) : FetchedRecords :=
  ⟨.found records.profile, .found records.documents, .found records.tasks⟩

namespace Context

variable {records : Records} (given : records.AreRecords) (subjectId : String) (today : Date)

include given

theorem ofRecords_cases :
    (∃ known, ofRecords subjectId records today = .ok known) ∨
    (∃ failure, ofRecords subjectId records today = .fail failure ∧ failure.kind = .context ∧
      failure.subjectId = some subjectId) ∨
    (∃ mishap, ofRecords subjectId records today = .mishap mishap ∧ records.Stumbles today) := by
  rw [ofRecords]
  cases outcome : records.context subjectId today with
  | ok known => exact Or.inl ⟨known, rfl⟩
  | error problem =>
    cases problem with
    | failure failure => exact (Records.not_isFailure_context given subjectId today ⟨_, outcome, rfl⟩).elim
    | issues found => exact Or.inr (Or.inl ⟨_, rfl, rfl, rfl⟩)
    | mishap mishap =>
      have stumbles := (Records.context_mishap_iff given subjectId today).mp ⟨_, outcome, rfl⟩
      exact Or.inr (Or.inr ⟨mishap, rfl, stumbles⟩)

/-- What is found for a subject becomes a context, fails as none, or is stumbled over. -/
theorem ofFetched_cases :
    (∃ known, ofFetched subjectId records.fetched today = .ok known) ∨
    (∃ failure, ofFetched subjectId records.fetched today = .fail failure ∧ failure.kind = .context ∧
      failure.subjectId = some subjectId) ∨
    (∃ mishap, ofFetched subjectId records.fetched today = .mishap mishap ∧ records.Stumbles today) := by
  by_cases profile : records.profile.isTruthy = true
  · have same : ofFetched subjectId records.fetched today = ofRecords subjectId records today :=
      if_pos profile
    rw [same]
    exact ofRecords_cases given subjectId today
  · have same : ofFetched subjectId records.fetched today =
        .fail (.of .context "User profile not found" { subjectId := some subjectId }) := if_neg profile
    exact Or.inr (Or.inl ⟨_, same, rfl, rfl⟩)

/-- There is neither a context nor a failure of it exactly where there is a profile and something to
stumble over. -/
theorem ofFetched_mishap_iff :
    (ofFetched subjectId records.fetched today).EndsIn Problem.isMishap ↔
      records.profile.isTruthy = true ∧ records.Stumbles today := by
  by_cases profile : records.profile.isTruthy = true
  · have same : ofFetched subjectId records.fetched today = ofRecords subjectId records today :=
      if_pos profile
    rw [same, ofRecords, ← Records.context_mishap_iff given subjectId today]
    cases records.context subjectId today with
    | ok known => simp
    | error problem => cases problem <;> simp [Outcome.EndsIn, Outcome.fail, Problem.isMishap, profile]
  · have same : ofFetched subjectId records.fetched today =
        .fail (.of .context "User profile not found" { subjectId := some subjectId }) := if_neg profile
    simp [same, profile, Outcome.EndsIn, Outcome.fail, Problem.isMishap]

end Context

end Obligations
