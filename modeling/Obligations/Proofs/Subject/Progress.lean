import Obligations.Proofs.Calendar.Order
import Obligations.Proofs.Subject.Stage

/-! # Stages as time goes on

Who has once been about to graduate, or has graduated, neither arrives nor enters again. The one earlier
stage that comes back is that of the program: once training has begun, a course that has begun counts before
the stages of training do.
-/

namespace Obligations

open Obligations.Calendar

/-- Whether a date is known and has come. -/
def HasCome (date : Option Date) (today : Date) : Prop :=
  ∃ day ∈ date, day ≤ today

/-- Whether the first days behind the entry are over. -/
def Milestones.IsSettled (dates : Milestones) (today : Date) : Prop :=
  ∃ entry ∈ dates.usEntry, initialEntryDays < entry.daysUntil today

/-- Whether graduation is due within the days in which a student prepares for it. -/
def Milestones.IsGraduating (dates : Milestones) (today : Date) : Prop :=
  ∃ graduation ∈ dates.graduation,
    today < graduation ∧ today.daysUntil graduation ≤ graduationWindowDays

instance (date : Option Date) (today : Date) : Decidable (HasCome date today) :=
  inferInstanceAs (Decidable (∃ day ∈ date, day ≤ today))

instance (dates : Milestones) (today : Date) : Decidable (dates.IsSettled today) :=
  inferInstanceAs (Decidable (∃ entry ∈ dates.usEntry, initialEntryDays < entry.daysUntil today))

instance (dates : Milestones) (today : Date) : Decidable (dates.IsGraduating today) :=
  inferInstanceAs (Decidable (∃ graduation ∈ dates.graduation,
    today < graduation ∧ today.daysUntil graduation ≤ graduationWindowDays))

section Coming

variable {earlier later : Date} (ordered : earlier ≤ later)

include ordered

theorem HasCome.mono {date : Option Date} (come : HasCome date earlier) : HasCome date later := by
  obtain ⟨day, given, come⟩ := come
  exact ⟨day, given, Nat.le_trans come ordered⟩

theorem Milestones.IsSettled.mono {dates : Milestones} (settled : dates.IsSettled earlier) :
    dates.IsSettled later := by
  obtain ⟨entry, given, settled⟩ := settled
  refine ⟨entry, given, ?_⟩
  rw [Date.le_iff_ordinal_le] at ordered
  rw [Date.daysUntil] at settled ⊢
  omega

/-- A graduation that is due stays so until it comes. -/
theorem Milestones.IsGraduating.onward {dates : Milestones} (graduating : dates.IsGraduating earlier) :
    dates.IsGraduating later ∨ HasCome dates.graduation later := by
  obtain ⟨graduation, given, ahead, near⟩ := graduating
  rw [Date.le_iff_ordinal_le] at ordered
  by_cases come : graduation ≤ later
  · exact Or.inr ⟨graduation, given, come⟩
  · refine Or.inl ⟨graduation, given, Nat.not_le.mp come, ?_⟩
    rw [Date.daysUntil] at near ⊢
    omega

end Coming

section Students

variable {dates : Milestones} {today : Date}

theorem Milestones.IsGraduating.not_hasCome (graduating : dates.IsGraduating today) :
    ¬ HasCome dates.graduation today := by
  rintro ⟨graduation, given, come⟩
  obtain ⟨other, same, ahead, _⟩ := graduating
  cases given.symm.trans same
  exact Nat.not_lt.mpr come ahead

theorem daysUntil_pos_iff {day : Date} : 0 < today.daysUntil day ↔ today < day := by
  change 0 < (day.ordinal : Int) - today.ordinal ↔ today.ordinal < day.ordinal
  omega

theorem hasCome_some_iff {day : Date} : HasCome (some day) today ↔ day ≤ today := by
  simp [HasCome]

theorem not_hasCome_none : ¬ HasCome none today := by
  rintro ⟨_, given, _⟩
  cases given

theorem any_le_iff {date : Option Date} :
    date.any (fun day => decide (day ≤ today)) = true ↔ HasCome date today := by
  rw [Option.any_eq_true]
  exact exists_congr fun day => and_congr Iff.rfl decide_eq_true_iff

theorem isGraduating_iff_of_some {graduation : Date} (given : dates.graduation = some graduation) :
    dates.IsGraduating today ↔
      0 < today.daysUntil graduation ∧ today.daysUntil graduation ≤ graduationWindowDays := by
  simp [Milestones.IsGraduating, given, daysUntil_pos_iff]

theorem not_isGraduating_of_none (unknown : dates.graduation = none) : ¬ dates.IsGraduating today := by
  rintro ⟨_, given, _⟩
  cases unknown.symm.trans given

/-- The stage of the program is that of a course which has begun. -/
theorem bind_guard_eq (courseStart : Option Date) (today : Date) :
    (courseStart.bind fun start =>
        (guard (start ≤ today) : Option Unit).bind fun _ => some Phase.duringProgram) =
      if HasCome courseStart today then some .duringProgram else none := by
  cases courseStart with
  | none => exact (if_neg not_hasCome_none).symm
  | some start =>
    change Option.bind (if start ≤ today then some () else none) (fun _ => some Phase.duringProgram) = _
    simp only [hasCome_some_iff]
    split <;> rfl

/-- What the stage of a student follows from. -/
theorem studentPhase?_eq (dates : Milestones) (today : Date) :
    studentPhase? dates today =
      if dates.IsGraduating today then some .preGraduation
      else if HasCome dates.graduation today ∧ ¬ HasCome dates.optStart today then some .postGraduation
      else if HasCome dates.courseStart today then some .duringProgram
      else none := by
  change Option.or _ (dates.courseStart.bind fun start =>
    (guard (start ≤ today) : Option Unit).bind fun _ => some Phase.duringProgram) = _
  rw [bind_guard_eq]
  cases given : dates.graduation with
  | none =>
    have notPast : ¬ (HasCome none today ∧ ¬ HasCome dates.optStart today) :=
      fun past => not_hasCome_none past.1
    rw [if_neg (not_isGraduating_of_none given), if_neg notPast]
    rfl
  | some graduation =>
    have past : HasCome (some graduation) today ∧ ¬ HasCome dates.optStart today ↔
        graduation ≤ today ∧ ¬ dates.optStart.any (fun start => decide (start ≤ today)) = true := by
      rw [hasCome_some_iff, any_le_iff]
    simp only [isGraduating_iff_of_some given, past, Bool.and_eq_true, decide_eq_true_eq,
      Bool.not_eq_true', Bool.not_eq_true]
    change Option.or
      (if _ then some Phase.preGraduation else if _ then some Phase.postGraduation else none) _ = _
    split
    · rfl
    · split <;> rfl

theorem graduation_of_studentPhase? {phase : Phase} (student : studentPhase? dates today = some phase)
    (apart : phase ≠ .duringProgram) : dates.IsGraduating today ∨ HasCome dates.graduation today := by
  rw [studentPhase?_eq] at student
  split at student
  next graduating => exact Or.inl graduating
  next =>
    split at student
    next past => exact Or.inr past.1
    next =>
      split at student
      · cases student
        exact absurd rfl apart
      · cases student

theorem studentPhase?_eq_duringProgram_iff :
    studentPhase? dates today = some .duringProgram ↔
      ¬ dates.IsGraduating today ∧ (HasCome dates.graduation today → HasCome dates.optStart today) ∧
        HasCome dates.courseStart today := by
  rw [studentPhase?_eq]
  by_cases graduating : dates.IsGraduating today
  · simp [graduating]
  by_cases past : HasCome dates.graduation today ∧ ¬ HasCome dates.optStart today
  · simp [graduating, past]
  · by_cases begun : HasCome dates.courseStart today
    · have training : HasCome dates.graduation today → HasCome dates.optStart today :=
        fun graduated => Decidable.not_not.mp fun idle => past ⟨graduated, idle⟩
      rw [if_neg graduating, if_neg past, if_pos begun]
      exact iff_of_true rfl ⟨graduating, training, begun⟩
    · simp [graduating, past, begun]

end Students

/-- The stage of a subject who has settled and is in none of the stages of a student. -/
def otherPhase (profile : Value) (visa : VisaType) (dates : Milestones) (isStem : Bool) (today : Date) :
    Phase :=
  if Text.upper (profile.getD "employment_status").looseText == "OPT" || dates.optStart.isSome then
    trainingPhase profile dates isStem today
  else if visa = .h1b || (profile.getD "h1b_petition_filed").isTruthy then .statusChange
  else .general

section Stages

variable {profile : Value} {visa : VisaType} {dates : Milestones} {isStem : Bool} {today : Date}

theorem otherPhase_mem (profile : Value) (visa : VisaType) (dates : Milestones) (isStem : Bool)
    (today : Date) : otherPhase profile visa dates isStem today ∈
      [Phase.stemActive, .optActive, .stemApplication, .statusChange, .general] := by
  rw [otherPhase]
  split
  · have training : trainingPhase profile dates isStem today = .stemActive ∨ _ := trainingPhase_cases
    rcases training with same | same | ⟨same, _⟩
    all_goals
      rw [same]
      decide
  · split <;> decide

theorem phaseOf_of_not_isSettled (unsettled : ¬ dates.IsSettled today) :
    phaseOf profile visa dates isStem today ∈ [.preArrival, .initialEntry] := by
  rw [phaseOf]
  cases given : dates.usEntry with
  | none => simp
  | some entry =>
    have recent : entry.daysUntil today ≤ initialEntryDays :=
      Int.not_lt.mp fun settled => unsettled ⟨entry, given, settled⟩
    dsimp only
    rw [if_pos recent]
    split <;> decide

/-- Whoever has settled is in a stage of students where there is one, else in another. -/
theorem phaseOf_of_isSettled (settled : dates.IsSettled today) :
    phaseOf profile visa dates isStem today =
      (if visa = .f1 then studentPhase? dates today else none).getD
        (otherPhase profile visa dates isStem today) := by
  obtain ⟨entry, given, settled⟩ := settled
  have past : ¬ today < entry := by
    intro future
    change today.ordinal < entry.ordinal at future
    rw [Date.daysUntil, initialEntryDays] at settled
    omega
  rw [phaseOf, given]
  dsimp only
  rw [if_neg past, if_neg (Int.not_le.mpr settled)]
  cases (if visa = .f1 then studentPhase? dates today else none) <;> rfl

/-- The stages of a student are those of the settled holders of a visa for study. -/
theorem phaseOf_eq_student_iff {phase : Phase}
    (student : phase ∈ [Phase.preGraduation, .postGraduation, .duringProgram]) :
    phaseOf profile visa dates isStem today = phase ↔
      dates.IsSettled today ∧ visa = .f1 ∧ studentPhase? dates today = some phase := by
  by_cases settled : dates.IsSettled today
  · have other : otherPhase profile visa dates isStem today ≠ phase := by
      intro same
      have member := otherPhase_mem profile visa dates isStem today
      rw [same] at member
      revert student member
      cases phase <;> decide
    rw [phaseOf_of_isSettled settled]
    by_cases study : visa = .f1
    · rw [if_pos study]
      cases studentPhase? dates today with
      | none => simp [other]
      | some found => simp [settled, study]
    · simp [study, other]
  · have entering : phaseOf profile visa dates isStem today ∈ [.preArrival, .initialEntry] :=
      phaseOf_of_not_isSettled settled
    refine iff_of_false (fun same => ?_) (fun staged => settled staged.1)
    rw [same] at entering
    revert student entering
    cases phase <;> decide

/-- Before they have settled, and only then, subjects arrive and enter. -/
theorem phaseOf_mem_entry_iff :
    phaseOf profile visa dates isStem today ∈ [.preArrival, .initialEntry] ↔ ¬ dates.IsSettled today := by
  refine ⟨fun entering settled => ?_, phaseOf_of_not_isSettled⟩
  rw [phaseOf_of_isSettled settled] at entering
  cases student : (if visa = .f1 then studentPhase? dates today else none) with
  | none =>
    rw [student] at entering
    have member := otherPhase_mem profile visa dates isStem today
    revert entering member
    generalize otherPhase profile visa dates isStem today = phase
    cases phase <;> decide
  | some phase =>
    rw [student, Option.getD_some] at entering
    split at student
    · rcases studentPhase?_cases student with ⟨rfl, _⟩ | rfl | rfl
      all_goals exact absurd entering (by decide)
    · cases student

variable {earlier later : Date}

/-- Who prepares for graduation, or has graduated, stays settled. The stage of the program comes back exactly
once graduation, training and the course have all come. -/
theorem phaseOf_behindGraduation (ordered : earlier ≤ later)
    (staged : phaseOf profile visa dates isStem earlier ∈ [.preGraduation, .postGraduation]) :
    phaseOf profile visa dates isStem later ∉ [.preArrival, .initialEntry] ∧
      (phaseOf profile visa dates isStem later = .duringProgram ↔
        HasCome dates.graduation later ∧ HasCome dates.optStart later ∧
          HasCome dates.courseStart later) := by
  obtain ⟨settled, study, student⟩ :=
    (phaseOf_eq_student_iff (List.mem_append_left [Phase.duringProgram] staged)).mp rfl
  have settledLater := settled.mono ordered
  refine ⟨fun entering => phaseOf_mem_entry_iff.mp entering settledLater, ?_⟩
  -- whoever is no longer about to graduate by then has graduated
  have graduation : dates.IsGraduating later ∨ HasCome dates.graduation later := by
    have apart : phaseOf profile visa dates isStem earlier ≠ .duringProgram := by
      intro same
      rw [same] at staged
      exact absurd staged (by decide)
    rcases graduation_of_studentPhase? student apart with graduating | past
    · exact graduating.onward ordered
    · exact Or.inr (past.mono ordered)
  rw [phaseOf_eq_student_iff (by decide), studentPhase?_eq_duringProgram_iff]
  constructor
  · rintro ⟨_, _, notGraduating, training, begun⟩
    have past := graduation.resolve_left notGraduating
    exact ⟨past, training past, begun⟩
  · rintro ⟨past, training, begun⟩
    have notGraduating : ¬ dates.IsGraduating later := fun graduating => graduating.not_hasCome past
    exact ⟨settledLater, study, notGraduating, fun _ => training, begun⟩

end Stages

/-- The dates of a student who trains some weeks after graduation. -/
def Milestones.ofGraduate : Milestones where
  usEntry := some ⟨2020, 8, 15, by decide⟩
  courseStart := some ⟨2020, 8, 24, by decide⟩
  graduation := some ⟨2023, 5, 15, by decide⟩
  optStart := some ⟨2023, 7, 1, by decide⟩

/-- The stage of the program does not come back before training begins, and then does. -/
theorem phaseOf_ofGraduate :
    phaseOf (.map []) .f1 .ofGraduate false ⟨2023, 6, 30, by decide⟩ ≠ .duringProgram ∧
      phaseOf (.map []) .f1 .ofGraduate false ⟨2023, 7, 1, by decide⟩ = .duringProgram := by
  have staged : phaseOf (.map []) .f1 .ofGraduate false ⟨2023, 6, 1, by decide⟩ ∈
      [.preGraduation, .postGraduation] := by decide +kernel
  constructor
  · rw [Ne, (phaseOf_behindGraduation (by decide) staged).2]
    decide +kernel
  · rw [(phaseOf_behindGraduation (by decide) staged).2]
    decide +kernel

/-- Subjects do come back to the stage of the program behind their graduation. -/
theorem phaseOf_comesBack :
    ¬ ∀ (profile : Value) (visa : VisaType) (dates : Milestones) (isStem : Bool) (earlier later : Date),
      earlier ≤ later →
      phaseOf profile visa dates isStem earlier ∈ [.preGraduation, .postGraduation] →
      phaseOf profile visa dates isStem later ∉ [.preArrival, .initialEntry, .duringProgram] := by
  intro onward
  have kept := onward (.map []) .f1 .ofGraduate false ⟨2023, 6, 1, by decide⟩ ⟨2023, 7, 1, by decide⟩
    (by decide) (by decide +kernel)
  exact kept (by decide +kernel)

end Obligations
