import Obligations.Proofs.Engine.Account
import Obligations.Proofs.Engine.Change

/-! # Evaluations in any order of their steps

Evaluations that are asked for together take their steps in any order, and in between the engine can be
changed. Each of them goes its own course: a step of one leaves the courses of the others alone, and so
does a change. What an evaluation comes to depends only on the rules at its first step, and on the
settings and the context at its second.
-/

namespace Obligations

open Obligations.Calendar

/-- How far an evaluation has come: it is asked for, it waits for the context with the rules that it
took, or it is answered. -/
inductive Course where
  | asked
  | waiting (rules : List Rule)
  | answered (outcome : Outcome Evaluation)

namespace Course

/-- How far an evaluation has come when it has started. -/
def ofStarted : Started → Course
  | .kept evaluation => .answered (.ok evaluation)
  | .judging rules => .waiting rules

/-- The next step of an evaluation. -/
def next (course : Course) (engine : Engine) (moment : Moment) (subjectId : String)
    (context : Outcome Context) : Course × Engine :=
  match course with
  | .asked =>
    let (started, engine) := engine.start moment.clock subjectId
    (ofStarted started, engine)
  | .waiting rules =>
    let (outcome, engine) := engine.finish moment subjectId (.judging rules) context
    (.answered outcome, engine)
  | .answered outcome => (.answered outcome, engine)

variable (engine : Engine) (moment : Moment) (subjectId : String) (context : Outcome Context)

theorem next_asked :
    asked.next engine moment subjectId context =
      (match engine.kept? moment.clock subjectId with
        | some evaluation => .answered (.ok { evaluation with isKept := true })
        | none => .waiting engine.rules, (engine.start moment.clock subjectId).2) := by
  show (ofStarted (engine.start moment.clock subjectId).1, _) = _
  rw [Engine.start_fst]
  cases engine.kept? moment.clock subjectId <;> rfl

theorem next_waiting (rules : List Rule) :
    (waiting rules).next engine moment subjectId context =
      (.answered (do
        let known ← context
        return Engine.evaluation engine.settings rules subjectId known moment.now),
        (engine.finish moment subjectId (.judging rules) context).2) :=
  Prod.ext (congrArg answered (engine.finish_fst moment subjectId (.judging rules) context)) rfl

/-- No step touches the rules or the settings. -/
theorem next_snd (course : Course) :
    (course.next engine moment subjectId context).2.rules = engine.rules ∧
      (course.next engine moment subjectId context).2.settings = engine.settings := by
  cases course with
  | asked =>
    rw [next_asked]
    exact ⟨engine.rules_start _ _, engine.settings_start _ _⟩
  | waiting rules =>
    rw [next_waiting]
    exact ⟨engine.rules_finish _ _ _ _, engine.settings_finish _ _ _ _⟩
  | answered outcome => exact ⟨rfl, rfl⟩

end Course

/-- What can happen next: a change of the engine, or a step of an evaluation, for which the provider
knows something of every subject. -/
inductive Move where
  | change (change : Change)
  | advance (number : Nat) (moment : Moment) (contextOf : String → Outcome Context)

namespace Move

/-- The number of the evaluation that takes a step. -/
def number? : Move → Option Nat
  | .change _ => none
  | .advance number _ _ => some number

/-- An evaluation takes no step at all, or there is a first one. -/
theorem exists_first_or (moves : List Move) (number : Nat) :
    (∀ move ∈ moves, move.number? ≠ some number) ∨
      ∃ earlier moment contextOf later, moves = earlier ++ .advance number moment contextOf :: later ∧
        ∀ move ∈ earlier, move.number? ≠ some number := by
  induction moves with
  | nil => exact Or.inl fun _ member => nomatch member
  | cons move rest ih =>
    by_cases own : move.number? = some number
    · cases move with
      | change change => cases own
      | advance other moment contextOf =>
        cases own
        exact Or.inr ⟨[], moment, contextOf, rest, rfl, fun _ member => nomatch member⟩
    · rcases ih with never | ⟨earlier, moment, contextOf, later, rfl, notEarlier⟩
      · exact Or.inl (List.forall_mem_cons.mpr ⟨own, never⟩)
      · exact Or.inr ⟨move :: earlier, moment, contextOf, later, rfl,
          List.forall_mem_cons.mpr ⟨own, notEarlier⟩⟩

/-- Whether an evaluation takes its first step after `opening` and its second one after `closing`. -/
structure Passes (moves : List Move) (number : Nat) (opening : List Move) (begun : Moment)
    (closing : List Move) (ended : Moment) (contextOf : String → Outcome Context) : Prop where
  first : ∃ early between, closing = opening ++ .advance number begun early :: between ∧
    ∀ move ∈ between, move.number? ≠ some number
  second : ∃ later, moves = closing ++ .advance number ended contextOf :: later
  notEarlier : ∀ move ∈ opening, move.number? ≠ some number

end Move

/-- An engine with evaluations that are asked for together, each with its subject. They are numbered by
their places. -/
structure Gathering where
  engine : Engine
  courses : List (String × Course)

namespace Gathering

/-- Evaluations that are asked for, none of which has started. -/
def ofSubjects (engine : Engine) (subjects : List String) : Gathering :=
  ⟨engine, subjects.map fun subjectId => (subjectId, .asked)⟩

def step (gathering : Gathering) : Move → Gathering
  | .change change => { gathering with engine := gathering.engine.after change }
  | .advance number moment contextOf =>
    match gathering.courses[number]? with
    | some (subjectId, course) =>
      let (course, engine) := course.next gathering.engine moment subjectId (contextOf subjectId)
      ⟨engine, gathering.courses.set number (subjectId, course)⟩
    | none => gathering

def run (gathering : Gathering) (moves : List Move) : Gathering :=
  moves.foldl step gathering

/-- The answer to an evaluation. -/
def outcome? (gathering : Gathering) (number : Nat) : Option (Outcome Evaluation) :=
  match gathering.courses[number]? with
  | some (_, .answered outcome) => some outcome
  | _ => none

variable {gathering : Gathering} {number : Nat} {subjectId : String}

theorem run_append (gathering : Gathering) (moves more : List Move) :
    gathering.run (moves ++ more) = (gathering.run moves).run more :=
  List.foldl_append

theorem run_cons (gathering : Gathering) (move : Move) (rest : List Move) :
    gathering.run (move :: rest) = (gathering.step move).run rest :=
  rfl

theorem outcome?_eq_some_iff {outcome : Outcome Evaluation} :
    gathering.outcome? number = some outcome ↔
      ∃ subjectId, gathering.courses[number]? = some (subjectId, .answered outcome) := by
  rw [outcome?]
  split
  next found => simp [found]
  next other =>
    refine iff_of_false (fun none => nomatch none) ?_
    rintro ⟨subjectId, found⟩
    exact other _ _ found

/-- The step of an evaluation takes it further on its course. -/
theorem step_advance {course : Course} (found : gathering.courses[number]? = some (subjectId, course))
    (moment : Moment) (contextOf : String → Outcome Context) :
    gathering.step (.advance number moment contextOf) =
      ⟨(course.next gathering.engine moment subjectId (contextOf subjectId)).2,
        gathering.courses.set number
          (subjectId, (course.next gathering.engine moment subjectId (contextOf subjectId)).1)⟩ := by
  rw [step, found]

theorem courses_step_advance {course : Course}
    (found : gathering.courses[number]? = some (subjectId, course)) (moment : Moment)
    (contextOf : String → Outcome Context) :
    (gathering.step (.advance number moment contextOf)).courses[number]? =
      some (subjectId, (course.next gathering.engine moment subjectId (contextOf subjectId)).1) := by
  rw [step_advance found, List.getElem?_set_self (List.getElem?_eq_some_iff.mp found).1]

/-- A move that is no step of an evaluation leaves its course alone. -/
theorem courses_step_of_ne {move : Move} (other : move.number? ≠ some number) :
    (gathering.step move).courses[number]? = gathering.courses[number]? := by
  cases move with
  | change change => rfl
  | advance another moment contextOf =>
    rw [step]
    cases gathering.courses[another]? with
    | none => rfl
    | some entry =>
      have different : another ≠ number := fun same => other (congrArg some same)
      exact List.getElem?_set_ne different

theorem courses_run_of_ne {moves : List Move} (others : ∀ move ∈ moves, move.number? ≠ some number) :
    (gathering.run moves).courses[number]? = gathering.courses[number]? := by
  induction moves generalizing gathering with
  | nil => rfl
  | cons move rest ih =>
    obtain ⟨other, others⟩ := List.forall_mem_cons.mp others
    rw [run_cons, ih others, courses_step_of_ne other]

/-- An answer is given once and for all. -/
theorem courses_run_of_answered {outcome : Outcome Evaluation}
    (found : gathering.courses[number]? = some (subjectId, .answered outcome)) (moves : List Move) :
    (gathering.run moves).courses[number]? = some (subjectId, .answered outcome) := by
  induction moves generalizing gathering with
  | nil => exact found
  | cons move rest ih =>
    refine ih ?_
    by_cases own : move.number? = some number
    · cases move with
      | change change => cases own
      | advance other moment contextOf =>
        cases own
        exact courses_step_advance found moment contextOf
    · rw [courses_step_of_ne own, found]

/-- An evaluation is for the same subject all the time. -/
theorem subject_step (gathering : Gathering) (move : Move) (number : Nat) :
    (gathering.step move).courses[number]?.map Prod.fst = gathering.courses[number]?.map Prod.fst := by
  by_cases own : move.number? = some number
  · cases move with
    | change change => cases own
    | advance other moment contextOf =>
      cases own
      cases found : gathering.courses[number]? with
      | none => rw [step, found, found]
      | some entry => rw [courses_step_advance found]; rfl
  · rw [courses_step_of_ne own]

theorem subject_run (gathering : Gathering) (moves : List Move) (number : Nat) :
    (gathering.run moves).courses[number]?.map Prod.fst = gathering.courses[number]?.map Prod.fst := by
  induction moves generalizing gathering with
  | nil => rfl
  | cons move rest ih => rw [run_cons, ih, subject_step]

/-- The rules of an engine stay different ones whatever happens. -/
theorem distinct_run {gathering : Gathering} (distinct : (gathering.engine.rules.map (·.id)).Nodup)
    (moves : List Move) : ((gathering.run moves).engine.rules.map (·.id)).Nodup := by
  induction moves generalizing gathering with
  | nil => exact distinct
  | cons move rest ih =>
    refine ih ?_
    cases move with
    | change change => exact Engine.distinct_after distinct change
    | advance number moment contextOf =>
      rw [step]
      cases gathering.courses[number]? with
      | none => exact distinct
      | some entry =>
        show ((entry.2.next gathering.engine moment entry.1 (contextOf entry.1)).2.rules.map _).Nodup
        rwa [(Course.next_snd _ _ _ _ _).1]

section Passing

variable {opening closing : List Move} {begun ended : Moment} {moves : List Move}
  {contextOf : String → Outcome Context}

/-- After its first step an evaluation that has found nothing kept waits, with the rules that were in
force then, for as long as it takes. -/
theorem waiting_of_passes (passes : Move.Passes moves number opening begun closing ended contextOf)
    (asked : gathering.courses[number]? = some (subjectId, .asked))
    (nothing : (gathering.run opening).engine.kept? begun.clock subjectId = none) :
    (gathering.run closing).courses[number]? =
      some (subjectId, .waiting (gathering.run opening).engine.rules) := by
  obtain ⟨early, between, rfl, notBetween⟩ := passes.first
  have still : (gathering.run opening).courses[number]? = some (subjectId, .asked) := by
    rw [courses_run_of_ne passes.notEarlier, asked]
  rw [run_append, run_cons, courses_run_of_ne notBetween, courses_step_advance still,
    Course.next_asked, nothing]

/-- An evaluation that has found nothing kept is answered at its second step. -/
theorem answered_of_passes (passes : Move.Passes moves number opening begun closing ended contextOf)
    (asked : gathering.courses[number]? = some (subjectId, .asked))
    (nothing : (gathering.run opening).engine.kept? begun.clock subjectId = none) :
    (gathering.run moves).courses[number]? = some (subjectId, .answered (do
      let known ← contextOf subjectId
      return Engine.evaluation (gathering.run closing).engine.settings
        (gathering.run opening).engine.rules subjectId known ended.now)) := by
  have waits := waiting_of_passes passes asked nothing
  obtain ⟨later, rfl⟩ := passes.second
  rw [run_append, run_cons]
  refine courses_run_of_answered ?_ later
  rw [courses_step_advance waits, Course.next_waiting]

/-- An answer that was not kept takes both steps. -/
theorem exists_passes_of_answered {result : Evaluation}
    (asked : gathering.courses[number]? = some (subjectId, .asked))
    (answered : (gathering.run moves).courses[number]? = some (subjectId, .answered (.ok result)))
    (full : result.isKept = false) :
    ∃ opening begun closing ended contextOf,
      Move.Passes moves number opening begun closing ended contextOf ∧
        (gathering.run opening).engine.kept? begun.clock subjectId = none := by
  rcases Move.exists_first_or moves number with never | ⟨opening, begun, early, rest, rfl, notEarlier⟩
  · rw [courses_run_of_ne never, asked] at answered
    cases answered
  · have still : (gathering.run opening).courses[number]? = some (subjectId, .asked) := by
      rw [courses_run_of_ne notEarlier, asked]
    have begins := courses_step_advance still begun early
    rw [run_append, run_cons] at answered
    rw [Course.next_asked] at begins
    cases nothing : (gathering.run opening).engine.kept? begun.clock subjectId with
    | some evaluation =>
      rw [nothing] at begins
      rw [courses_run_of_answered begins] at answered
      cases answered
      cases full
    | none =>
      rw [nothing] at begins
      rcases Move.exists_first_or rest number with
        never | ⟨between, ended, contextOf, later, rfl, notBetween⟩
      · rw [courses_run_of_ne never, begins] at answered
        cases answered
      · exact ⟨opening, begun, opening ++ .advance number begun early :: between, ended, contextOf,
          ⟨⟨early, between, rfl, notBetween⟩, ⟨later, by simp⟩, notEarlier⟩, nothing⟩

end Passing

theorem courses_ofSubjects (engine : Engine) (subjects : List String) (number : Nat) :
    (ofSubjects engine subjects).courses[number]? =
      subjects[number]?.map fun subjectId => (subjectId, .asked) := by
  rw [ofSubjects, List.getElem?_map]

theorem asked_of_listed (engine : Engine) {subjects : List String}
    (listed : subjects[number]? = some subjectId) :
    (ofSubjects engine subjects).courses[number]? = some (subjectId, .asked) := by
  rw [courses_ofSubjects, listed]
  rfl

/-- The subject of an evaluation is the one at its place. -/
theorem subject_of_courses_run {engine : Engine} {subjects : List String} {moves : List Move}
    {course : Course}
    (found : ((ofSubjects engine subjects).run moves).courses[number]? = some (subjectId, course)) :
    subjects[number]? = some subjectId := by
  have same := subject_run (ofSubjects engine subjects) moves number
  rw [found, courses_ofSubjects, Option.map_map] at same
  simpa using same.symm

/-- Evaluations and changes may come in any order: an evaluation is answered without anything kept
exactly if it found nothing kept at its first step and got to know a context at its second. The answer is
then the evaluation of the rules that were in force at the first step, for that context. It accounts for
these rules and for no others, whatever rules were in force later. -/
theorem answered_full_iff (engine : Engine) (distinct : (engine.rules.map (·.id)).Nodup)
    (subjects : List String) (moves : List Move) (number : Nat) (result : Evaluation) :
    let gathering := ofSubjects engine subjects
    (gathering.run moves).outcome? number = some (.ok result) ∧ result.isKept = false ↔
      ∃ subjectId opening begun closing ended contextOf known,
        subjects[number]? = some subjectId ∧
        Move.Passes moves number opening begun closing ended contextOf ∧
        (gathering.run opening).engine.kept? begun.clock subjectId = none ∧
        contextOf subjectId = .ok known ∧
        let rules := (gathering.run opening).engine.rules
        let settings := (gathering.run closing).engine.settings
        result = Engine.evaluation settings rules subjectId known ended.now ∧
        ∃ problems faults, result.IsAccountOf settings (Engine.applicable rules known) known ended.now
          problems faults := by
  dsimp only
  constructor
  · rintro ⟨answered, full⟩
    obtain ⟨subjectId, found⟩ := outcome?_eq_some_iff.mp answered
    have listed := subject_of_courses_run found
    have asked := asked_of_listed engine listed
    obtain ⟨opening, begun, closing, ended, contextOf, passes, nothing⟩ :=
      exists_passes_of_answered asked found full
    have given := answered_of_passes passes asked nothing
    rw [found] at given
    obtain ⟨known, fetched, same⟩ :=
      Outcome.bind_eq_ok.mp (Course.answered.inj (Prod.mk.inj (Option.some.inj given)).2).symm
    cases same
    exact ⟨subjectId, opening, begun, closing, ended, contextOf, known, listed, passes, nothing,
      fetched, rfl, _, _, Engine.evaluation_isAccountOf subjectId (distinct_run distinct opening)⟩
  · rintro ⟨subjectId, opening, begun, closing, ended, contextOf, known, listed, passes, nothing,
      fetched, rfl, _⟩
    have given := answered_of_passes passes (asked_of_listed engine listed) nothing
    rw [fetched] at given
    exact ⟨outcome?_eq_some_iff.mpr ⟨subjectId, given⟩, rfl⟩

/-- A student's evaluation during which the rules are cleared and another student is evaluated. -/
def overtaken : List Move :=
  let advance (number : Nat) : Move := .advance number Engine.morning fun _ => .ok Engine.student
  [advance 0, .change .clear, advance 1, advance 1, advance 0]

theorem answered_full_overtaken :
    (Engine.visaAndReport.rules.map (·.id)).Nodup ∧
      let gathering := (ofSubjects Engine.visaAndReport ["s1", "s2"]).run overtaken
      gathering.engine.rules = [] ∧
      gathering.outcome? 0 = some (.ok Engine.ofStudent) ∧
      ∃ problems faults, Engine.ofStudent.IsAccountOf {}
        (Engine.applicable Engine.visaAndReport.rules Engine.student) Engine.student Engine.morning.now
        problems faults := by
  have distinct : (Engine.visaAndReport.rules.map (·.id)).Nodup := by decide
  have spec := answered_full_iff Engine.visaAndReport distinct ["s1", "s2"] overtaken 0 Engine.ofStudent
  have passes : Move.Passes overtaken 0 [] Engine.morning (overtaken.take 4) Engine.morning
      fun _ => .ok Engine.student :=
    ⟨⟨_, _, rfl, by simp [Move.number?]⟩, ⟨[], rfl⟩, by simp⟩
  have account : Engine.ofStudent.IsAccountOf {}
      (Engine.applicable Engine.visaAndReport.rules Engine.student) Engine.student Engine.morning.now _ _ :=
    Engine.evaluation_isAccountOf "s1" distinct
  have answered := spec.mpr ⟨"s1", _, _, _, _, _, _, rfl, passes, rfl, rfl, rfl, _, _, account⟩
  exact ⟨distinct, rfl, answered.1, _, _, account⟩

end Gathering

end Obligations
