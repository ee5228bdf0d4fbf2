import Obligations.Proofs.Outcome
import Obligations.Proofs.Schema.Reading
import Obligations.Subject.Records

/-! # What a stage tells

A context that is made of records is in the stage that follows from its dates. Some stages are only
reached by subjects who have a certain date.
-/

namespace Obligations

open Obligations.Calendar Obligations.Schema

theorem Outcome.ofChecked_eq_ok {α : Type} {checked : Checked α} {result : α} :
    ofChecked checked = .ok result ↔ checked = .ok result := by
  cases checked <;> simp [ofChecked]

/-- A context that is made of records has the dates of the profile, and the stage that follows from
them. -/
theorem Context.phase_eq_of_ofRecords {subjectId : String} {records : Records} {today : Date}
    {context : Context} (built : ofRecords subjectId records today = .ok context) :
    context.phase =
      phaseOf records.profile context.visa context.dates context.studies.isStem today := by
  have made : records.context subjectId today = .ok context := by
    rw [ofRecords] at built
    split at built
    · cases built
    · exact built
  rw [Records.context] at made
  simp only [Outcome.bind_eq_ok] at made
  obtain ⟨_, _, studies, _, employment, _, residence, _, documents, _, made⟩ := made
  split at made
  · cases made
  · obtain ⟨standing, _, made⟩ := Outcome.bind_eq_ok.mp made
    obtain ⟨entries, _, made⟩ := Outcome.bind_eq_ok.mp made
    rw [Outcome.ofChecked_eq_ok] at made
    simp only [Checked.seq_eq_ok, Checked.map_eq_ok] at made
    obtain ⟨_, _, ⟨_, _, ⟨_, _, ⟨_, _, ⟨_, _, ⟨_, _, rfl⟩, _, rfl⟩, _, rfl⟩, _, rfl⟩, _, rfl⟩, _, rfl⟩ :=
      made
    rfl

variable {profile : Value} {visa : VisaType} {dates : Milestones} {isStem : Bool} {today : Date}

/-- Of the stages of a student only the one before graduation is about what is still to come. -/
theorem studentPhase?_cases {phase : Phase} (staged : studentPhase? dates today = some phase) :
    (phase = .preGraduation ∧ dates.graduation.isSome) ∨ phase = .postGraduation ∨
      phase = .duringProgram := by
  rw [studentPhase?] at staged
  rcases Option.or_eq_some_iff.mp staged with around | ⟨_, during⟩
  · obtain ⟨graduation, given, around⟩ := Option.bind_eq_some_iff.mp around
    dsimp only at around
    split at around
    · cases around
      exact Or.inl ⟨rfl, by rw [given]; rfl⟩
    · split at around
      · cases around
        exact Or.inr (Or.inl rfl)
      · cases around
  · obtain ⟨start, _, during⟩ := Option.bind_eq_some_iff.mp during
    obtain ⟨_, _, same⟩ := Option.bind_eq_some_iff.mp during
    cases same
    exact Or.inr (Or.inr rfl)

theorem trainingPhase_cases :
    trainingPhase profile dates isStem today = .stemActive ∨
    trainingPhase profile dates isStem today = .optActive ∨
    (trainingPhase profile dates isStem today = .stemApplication ∧ dates.optEnd.isSome) := by
  rw [trainingPhase]
  split
  · exact Or.inl rfl
  · split
    next finish given =>
      split
      · exact Or.inr (Or.inr ⟨rfl, by rw [given]; rfl⟩)
      · exact Or.inr (Or.inl rfl)
    next => exact Or.inr (Or.inl rfl)

/-- A stage follows from the entry, or is the one of a student, of training or of neither. -/
theorem phaseOf_cases (profile : Value) (visa : VisaType) (dates : Milestones) (isStem : Bool)
    (today : Date) :
    phaseOf profile visa dates isStem today ∈
      [Phase.preArrival, .initialEntry, .statusChange, .general] ∨
    studentPhase? dates today = some (phaseOf profile visa dates isStem today) ∨
    phaseOf profile visa dates isStem today = trainingPhase profile dates isStem today := by
  rw [phaseOf]
  cases dates.usEntry with
  | none =>
    dsimp only
    exact Or.inl (by decide)
  | some entry =>
    dsimp only
    by_cases future : today < entry
    · rw [if_pos future]
      exact Or.inl (by decide)
    by_cases recent : entry.daysUntil today ≤ initialEntryDays
    · rw [if_neg future, if_pos recent]
      exact Or.inl (by decide)
    rw [if_neg future, if_neg recent]
    cases student : (if visa = .f1 then studentPhase? dates today else none) with
    | some phase =>
      split at student
      · exact Or.inr (Or.inl student)
      · cases student
    | none =>
      dsimp only
      split
      · exact Or.inr (Or.inr rfl)
      · split <;> exact Or.inl (by decide)

/-- Only who has a date of graduation is about to graduate. -/
theorem graduation_of_phaseOf (staged : phaseOf profile visa dates isStem today = .preGraduation) :
    dates.graduation.isSome := by
  rcases phaseOf_cases profile visa dates isStem today with neither | student | training
  · rw [staged] at neither
    exact absurd neither (by decide)
  · rw [staged] at student
    rcases studentPhase?_cases student with ⟨_, given⟩ | other | other
    · exact given
    · cases other
    · cases other
  · rcases trainingPhase_cases with other | other | ⟨other, _⟩
    all_goals
      rw [staged, other] at training
      cases training

/-- Only whose training has an end applies for its extension. -/
theorem optEnd_of_phaseOf (staged : phaseOf profile visa dates isStem today = .stemApplication) :
    dates.optEnd.isSome := by
  rcases phaseOf_cases profile visa dates isStem today with neither | student | training
  · rw [staged] at neither
    exact absurd neither (by decide)
  · rw [staged] at student
    rcases studentPhase?_cases student with ⟨other, _⟩ | other | other
    all_goals cases other
  · rcases trainingPhase_cases with other | other | ⟨_, given⟩
    · rw [staged, other] at training
      cases training
    · rw [staged, other] at training
      cases training
    · exact given

end Obligations
