import Obligations.Failure

/-! # Outcomes one after another

What two steps come to, one of which goes on with the answer of the other.
-/

namespace Obligations

namespace Problem

/-- Whether a problem belongs to no kind of work. -/
def isMishap : Problem → Bool
  | .mishap _ => true
  | _ => false

/-- Whether a problem is a failure that the library answers with. -/
def isFailure : Problem → Bool
  | .failure _ => true
  | _ => false

end Problem

namespace Outcome

variable {α β : Type} {outcome : Outcome α} {next : α → Outcome β}

/-- Two steps have an answer if the first has one with which the second goes on, whatever may stand against
them. -/
theorem bind_eq_ok {ε : Type} {first : Except ε α} {next : α → Except ε β} {result : β} :
    (first >>= next) = .ok result ↔ ∃ value, first = .ok value ∧ next value = .ok result := by
  cases first with
  | error problem => simp [bind, Except.bind]
  | ok value => simp [bind, Except.bind]

theorem ofPrinted_eq_ok {printed : Option α} {value : α} : ofPrinted printed = .ok value ↔ printed = some value := by
  cases printed <;> simp [ofPrinted, mishap]

theorem fail_ne_ok {failure : Failure} {value : α} : fail failure ≠ .ok value := by
  rintro ⟨⟩

theorem toOption_eq_some {value : α} : outcome.toOption = some value ↔ outcome = .ok value := by
  cases outcome <;> simp [Except.toOption]

/-- An answer of which something has been worked out. -/
theorem exists_of_any {test : α → Bool} (passed : outcome.toOption.any test = true) :
    ∃ value, outcome = .ok value ∧ test value = true := by
  cases outcome with
  | error problem => cases passed
  | ok value => exact ⟨value, rfl, passed⟩

section Steps

variable {step : α → Outcome β} {items : List α} {results : List β}

/-- Every one of several steps has its result. -/
theorem exists_of_mapM (ran : items.mapM step = .ok results) {item : α} (member : item ∈ items) :
    ∃ result ∈ results, step item = .ok result := by
  induction items generalizing results with
  | nil => cases member
  | cons first rest ih =>
    rw [List.mapM_cons] at ran
    obtain ⟨result, ended, ran⟩ := bind_eq_ok.mp ran
    obtain ⟨others, more, same⟩ := bind_eq_ok.mp ran
    cases same
    rcases List.mem_cons.mp member with rfl | later
    · exact ⟨result, List.mem_cons_self, ended⟩
    · obtain ⟨other, listed, otherEnded⟩ := ih more later
      exact ⟨other, List.mem_cons_of_mem _ listed, otherEnded⟩

/-- Steps that can have one result only have these results. -/
theorem eq_map_of_mapM {plain : α → β}
    (only : ∀ item result, step item = .ok result → result = plain item)
    (ran : items.mapM step = .ok results) : results = items.map plain := by
  induction items generalizing results with
  | nil =>
    cases ran
    rfl
  | cons first rest ih =>
    rw [List.mapM_cons] at ran
    obtain ⟨result, ended, ran⟩ := bind_eq_ok.mp ran
    obtain ⟨others, more, same⟩ := bind_eq_ok.mp ran
    cases same
    rw [List.map_cons, only first result ended, ih more]

/-- Steps that have a result wherever something holds, and keep it, have one together. -/
theorem exists_foldlM {P : β → Prop} {step : β → α → Outcome β}
    (kept : ∀ state, P state → ∀ item ∈ items, ∃ next, step state item = .ok next ∧ P next)
    {first : β} (holds : P first) : ∃ last, items.foldlM step first = .ok last ∧ P last := by
  induction items generalizing first with
  | nil => exact ⟨first, rfl, holds⟩
  | cons item rest ih =>
    obtain ⟨next, stepped, holdsNext⟩ := kept first holds item List.mem_cons_self
    obtain ⟨last, ran, holdsLast⟩ :=
      ih (fun state holds other listed => kept state holds other (List.mem_cons_of_mem _ listed)) holdsNext
    exact ⟨last, by rw [List.foldlM_cons, stepped]; exact ran, holdsLast⟩

end Steps

/-- Whether an outcome is a problem of a sort. -/
def EndsIn (sort : Problem → Bool) (outcome : Outcome α) : Prop :=
  ∃ problem, outcome = .error problem ∧ sort problem = true

variable {sort : Problem → Bool}

/-- Two steps end in a problem where the first does, or the second after the first. -/
theorem endsIn_bind :
    (outcome >>= next).EndsIn sort ↔
      outcome.EndsIn sort ∨ ∃ value, outcome = .ok value ∧ (next value).EndsIn sort := by
  cases outcome with
  | error other => simp [EndsIn, bind, Except.bind]
  | ok value => simp [EndsIn, bind, Except.bind]

@[simp] theorem not_endsIn_ok (value : α) : ¬ EndsIn sort (.ok value : Outcome α) := by
  rintro ⟨_, same, _⟩
  cases same

@[simp] theorem not_endsIn_pure (value : α) : ¬ EndsIn sort (pure value : Outcome α) :=
  not_endsIn_ok value

@[simp] theorem endsIn_mishap (mishap : Mishap) :
    EndsIn sort (.mishap mishap : Outcome α) ↔ sort (.mishap mishap) := by
  simp [EndsIn, Outcome.mishap]

/-- A check refuses with issues only. -/
theorem endsIn_ofChecked {checked : Schema.Checked α} (ended : (ofChecked checked).EndsIn sort) :
    ∃ found, sort (.issues found) = true := by
  obtain ⟨problem, same, sorted⟩ := ended
  cases checked with
  | ok value => cases same
  | refused found => cases same; exact ⟨found, sorted⟩

@[simp] theorem not_isMishap_ofChecked (checked : Schema.Checked α) :
    ¬ (ofChecked checked).EndsIn Problem.isMishap :=
  fun ended => by obtain ⟨_, sorted⟩ := endsIn_ofChecked ended; cases sorted

@[simp] theorem not_isFailure_ofChecked (checked : Schema.Checked α) :
    ¬ (ofChecked checked).EndsIn Problem.isFailure :=
  fun ended => by obtain ⟨_, sorted⟩ := endsIn_ofChecked ended; cases sorted

/-- Whether there is an answer if all is well, and else a mishap, but never another problem. -/
structure AnswersIff (outcome : Outcome α) (well : Prop) : Prop where
  answer : well → ∃ value, outcome = .ok value
  mishap : ¬ well → outcome.EndsIn Problem.isMishap

namespace AnswersIff

variable {well others : Prop}

theorem pure (value : α) : AnswersIff (Pure.pure value) True where
  answer := fun _ => ⟨value, rfl⟩
  mishap := fun ill => absurd trivial ill

theorem congr (answers : outcome.AnswersIff well) (same : well ↔ others) : outcome.AnswersIff others :=
  propext same ▸ answers

/-- Two steps answer if all is well with both. -/
theorem bind (first : outcome.AnswersIff well) (second : ∀ value, (next value).AnswersIff others) :
    (outcome >>= next).AnswersIff (well ∧ others) where
  answer := by
    rintro ⟨holds, holdsToo⟩
    obtain ⟨value, answered⟩ := first.answer holds
    obtain ⟨result, answeredToo⟩ := (second value).answer holdsToo
    exact ⟨result, bind_eq_ok.mpr ⟨value, answered, answeredToo⟩⟩
  mishap := by
    intro ill
    rw [endsIn_bind]
    by_cases holds : well
    · obtain ⟨value, answered⟩ := first.answer holds
      exact Or.inr ⟨value, answered, (second value).mishap fun more => ill ⟨holds, more⟩⟩
    · exact Or.inl (first.mishap holds)

/-- What is worked out of an answer costs nothing. -/
theorem map (answers : outcome.AnswersIff well) (plain : α → β) :
    AnswersIff (do return plain (← outcome)) well :=
  (answers.bind fun value => pure (plain value)).congr (by simp)

theorem mapM {step : α → Outcome β} {fine : α → Prop} (each : ∀ item, (step item).AnswersIff (fine item))
    (items : List α) : (items.mapM step).AnswersIff (∀ item ∈ items, fine item) := by
  induction items with
  | nil => exact (pure []).congr (by simp)
  | cons item rest ih =>
    rw [List.mapM_cons]
    exact ((each item).bind fun result => ih.map (result :: ·)).congr List.forall_mem_cons.symm

end AnswersIff

end Outcome

end Obligations
