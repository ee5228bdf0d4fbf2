import Obligations.Proofs.Engine.Current
import Obligations.Proofs.Engine.Gathering
import Obligations.Proofs.Engine.Several

/-! # Evaluating together and alone

Evaluations of several subjects that take their steps in any order share one cache, in which what is kept
for one can be given up for another. As long as nothing changes, and what is kept is what the rules come
to now, it does not matter whether an evaluation finds something kept: all of them come to what each
comes to on its own.
-/

namespace Obligations

open Obligations.Calendar

/-- Whether outcomes give every one of some subjects, once, what it comes to on its own. -/
structure Outcome.IsMapping (outcomes : List (String × Outcome Evaluation)) (subjects : List String)
    (outcomeOf : String → Outcome Evaluation) : Prop where
  once : (outcomes.map Prod.fst).Nodup
  subjects : ∀ subjectId, subjectId ∈ outcomes.map Prod.fst ↔ subjectId ∈ subjects
  alike : ∀ entry ∈ outcomes, Outcome.plain entry.2 = Outcome.plain (outcomeOf entry.1)

/-- Whether an evaluation on its course comes to what the rules of an engine come to now. -/
def Course.Agrees (course : Course) (engine : Engine) (moment : Moment)
    (contextOf : String → Outcome Context) (subjectId : String) : Prop :=
  match course with
  | .asked => True
  | .waiting rules => rules = engine.rules
  | .answered outcome => Outcome.plain outcome = engine.afresh moment contextOf subjectId

namespace Course

variable {engine other : Engine} {moment : Moment} {contextOf : String → Outcome Context}
  {subjects : List String} {subjectId : String} {course : Course}

/-- Every step of an evaluation leaves what it comes to, and what is kept, as the rules come to. -/
theorem Agrees.next (agrees : course.Agrees engine moment contextOf subjectId)
    (agreement : other.Agrees engine moment contextOf subjects) (listed : subjectId ∈ subjects) :
    (course.next other moment subjectId (contextOf subjectId)).1.Agrees engine moment contextOf subjectId ∧
      (course.next other moment subjectId (contextOf subjectId)).2.Agrees engine moment contextOf
        subjects := by
  cases course with
  | asked =>
    rw [next_asked]
    refine ⟨?_, agreement.start subjectId⟩
    cases found : other.kept? moment.clock subjectId with
    | some kept =>
      have current := agreement.current subjectId listed kept found
      rw [agreement.afresh_eq] at current
      exact current.symm
    | none => exact agreement.rules
  | waiting rules =>
    obtain rfl : rules = engine.rules := agrees
    rw [next_waiting]
    refine ⟨?_, agreement.finish subjectId⟩
    rw [agreement.settings]
    exact Engine.plain_afresh subjectId
  | answered outcome => exact ⟨agrees, agreement⟩

/-- How many steps an evaluation can still take. -/
def left : Course → Nat
  | .asked => 2
  | .waiting _ => 1
  | .answered _ => 0

theorem left_next (course : Course) (engine : Engine) (moment : Moment) (subjectId : String)
    (context : Outcome Context) :
    (course.next engine moment subjectId context).1.left ≤ course.left - 1 := by
  cases course with
  | asked =>
    rw [next_asked]
    cases engine.kept? moment.clock subjectId <;> simp [left]
  | waiting rules => exact Nat.le_refl _
  | answered outcome => exact Nat.le_refl _

end Course

namespace Gathering

variable {engine : Engine} {moment : Moment} {contextOf : String → Outcome Context}
  {subjects : List String} {gathering : Gathering}

/-- The gathering after evaluations have taken their turns, at one time. -/
def take (gathering : Gathering) (moment : Moment) (contextOf : String → Outcome Context)
    (turns : List Nat) : Gathering :=
  gathering.run (turns.map fun number => .advance number moment contextOf)

/-- The answer to an evaluation, with its subject. -/
def answered? : String × Course → Option (String × Outcome Evaluation)
  | (subjectId, .answered outcome) => some (subjectId, outcome)
  | _ => none

/-- What evaluations come to together when all of them have been answered. -/
def together? (gathering : Gathering) : Option (Outcome (List (String × Outcome Evaluation))) := do
  let ended ← gathering.courses.mapM answered?
  return match Engine.firstMishap? ended with
    | some problem => .error problem
    | none => .ok (Engine.bySubject ended)

/-- Whether evaluations for subjects come to what the rules of an engine come to now. -/
structure Agrees (gathering : Gathering) (engine : Engine) (moment : Moment)
    (contextOf : String → Outcome Context) (subjects : List String) : Prop where
  cache : gathering.engine.Agrees engine moment contextOf subjects
  ofSubjects : gathering.courses.map Prod.fst = subjects
  courses : ∀ entry ∈ gathering.courses, entry.2.Agrees engine moment contextOf entry.1

theorem Agrees.advance (agrees : gathering.Agrees engine moment contextOf subjects) (number : Nat) :
    (gathering.step (.advance number moment contextOf)).Agrees engine moment contextOf subjects := by
  cases found : gathering.courses[number]? with
  | none => rwa [step, found]
  | some entry =>
    obtain ⟨subjectId, course⟩ := entry
    have member := List.mem_of_getElem? found
    have listed : subjectId ∈ subjects := agrees.ofSubjects ▸ List.mem_map_of_mem member
    obtain ⟨further, cache⟩ := (agrees.courses _ member).next agrees.cache listed
    have same : (gathering.step (.advance number moment contextOf)).courses.map Prod.fst =
        gathering.courses.map Prod.fst :=
      List.ext_getElem? fun other => by
        rw [List.getElem?_map, List.getElem?_map, subject_step]
    refine ⟨by rwa [step_advance found], same.trans agrees.ofSubjects, fun entry gone => ?_⟩
    rw [step_advance found] at gone
    rcases List.mem_or_eq_of_mem_set gone with old | rfl
    · exact agrees.courses entry old
    · exact further

theorem Agrees.take (agrees : gathering.Agrees engine moment contextOf subjects) (turns : List Nat) :
    (gathering.take moment contextOf turns).Agrees engine moment contextOf subjects := by
  induction turns generalizing gathering with
  | nil => exact agrees
  | cons number rest ih => exact ih (agrees.advance number)

theorem agrees_ofSubjects
    (current : ∀ subjectId ∈ subjects, engine.IsCurrent moment contextOf subjectId) :
    (ofSubjects engine subjects).Agrees engine moment contextOf subjects where
  cache := ⟨rfl, rfl, current⟩
  ofSubjects := by simp [Gathering.ofSubjects, Function.comp_def]
  courses entry member := by
    obtain ⟨subjectId, _, rfl⟩ := List.mem_map.mp member
    trivial

/-- Every turn of an evaluation takes it further, until it is answered. -/
theorem left_take {number : Nat} {subjectId : String} {course : Course}
    (found : gathering.courses[number]? = some (subjectId, course)) (turns : List Nat) :
    ∃ further, (gathering.take moment contextOf turns).courses[number]? = some (subjectId, further) ∧
      further.left ≤ course.left - turns.count number := by
  induction turns generalizing gathering course with
  | nil => exact ⟨course, found, Nat.le_refl _⟩
  | cons turn rest ih =>
    by_cases own : turn = number
    · subst own
      have fewer := course.left_next gathering.engine moment subjectId (contextOf subjectId)
      obtain ⟨further, reached, least⟩ := ih (courses_step_advance found moment contextOf)
      refine ⟨further, reached, least.trans ?_⟩
      rw [List.count_cons_self]
      omega
    · have still : (gathering.step (.advance turn moment contextOf)).courses[number]? =
          some (subjectId, course) := by
        rw [courses_step_of_ne (by simpa [Move.number?] using own), found]
      obtain ⟨further, reached, least⟩ := ih still
      exact ⟨further, reached, by rwa [List.count_cons_of_ne own]⟩

/-- Where every evaluation has had its two turns, all of them are answered. -/
theorem answered_of_fair (engine : Engine) (moment : Moment) (contextOf : String → Outcome Context)
    {turns : List Nat}
    (fair : ∀ number, number < subjects.length → 2 ≤ turns.count number) :
    ∀ entry ∈ ((ofSubjects engine subjects).take moment contextOf turns).courses,
      (answered? entry).isSome = true := by
  rintro ⟨subjectId, course⟩ member
  obtain ⟨number, reached⟩ := List.mem_iff_getElem?.mp member
  have listed := subject_of_courses_run reached
  have twice := fair number (List.getElem?_eq_some_iff.mp listed).1
  obtain ⟨further, same, least⟩ := left_take (asked_of_listed engine listed) turns
  obtain ⟨_, rfl⟩ := Prod.mk.inj (Option.some.inj (same.symm.trans reached))
  rw [Course.left] at least
  cases further with
  | asked => simp only [Course.left] at least; omega
  | waiting rules => simp only [Course.left] at least; omega
  | answered outcome => rfl

/-- What has been answered is what the rules come to now. -/
theorem plain_of_mapM_answered? {courses : List (String × Course)}
    (agree : ∀ entry ∈ courses, entry.2.Agrees engine moment contextOf entry.1)
    {ended : List (String × Outcome Evaluation)} (gathered : courses.mapM answered? = some ended) :
    ended.map (Prod.map id Outcome.plain) =
      courses.map fun entry => (entry.1, engine.afresh moment contextOf entry.1) := by
  induction courses generalizing ended with
  | nil =>
    cases gathered
    rfl
  | cons entry rest ih =>
    obtain ⟨own, others⟩ := List.forall_mem_cons.mp agree
    rw [List.mapM_cons] at gathered
    obtain ⟨answer, given, gathered⟩ := Option.bind_eq_some_iff.mp gathered
    obtain ⟨more, further, same⟩ := Option.bind_eq_some_iff.mp gathered
    cases same
    obtain ⟨subjectId, course⟩ := entry
    cases course with
    | answered outcome =>
      cases given
      rw [List.map_cons, List.map_cons, ih others further]
      exact congrArg (fun plain => (subjectId, plain) :: _) own
    | _ => cases given

/-- Evaluations that have all been answered come together to what the rules come to now. -/
theorem Agrees.together (agrees : gathering.Agrees engine moment contextOf subjects)
    (failures : ∀ subjectId ∈ subjects, ∀ problem,
      engine.afresh moment contextOf subjectId = .error problem → problem.isFailure = true)
    {together : Outcome (List (String × Outcome Evaluation))}
    (gathered : gathering.together? = some together) :
    ∃ outcomes, together = .ok outcomes ∧
      outcomes.map (Prod.map id Outcome.plain) =
        (distinct subjects).map fun subjectId => (subjectId, engine.afresh moment contextOf subjectId) := by
  obtain ⟨ended, answered, same⟩ := Option.bind_eq_some_iff.mp gathered
  have plain : ended.map (Prod.map id Outcome.plain) =
      subjects.map fun subjectId => (subjectId, engine.afresh moment contextOf subjectId) := by
    rw [plain_of_mapM_answered? agrees.courses answered, ← agrees.ofSubjects, List.map_map]
    rfl
  have calm : Engine.firstMishap? ended = none := by
    refine Engine.firstMishap?_eq_none_iff.mpr fun entry member problem failed => ?_
    have listed := List.mem_map_of_mem (f := Prod.map id Outcome.plain) member
    rw [plain] at listed
    obtain ⟨subjectId, asked, told⟩ := List.mem_map.mp listed
    refine failures subjectId asked problem ?_
    rw [(Prod.mk.inj told).2, failed]
    rfl
  rw [calm] at same
  cases same
  exact ⟨_, rfl, by rw [Engine.bySubject_map_snd, plain, Engine.bySubject_map]⟩

/-- A gathering in which the evaluations take one step each, in their order. -/
def round (engine : Engine) (moment : Moment) (contextOf : String → Outcome Context)
    (courses : List (String × Course)) : Gathering :=
  courses.foldl (fun gathering (subjectId, course) =>
    let (course, engine) := course.next gathering.engine moment subjectId (contextOf subjectId)
    ⟨engine, gathering.courses ++ [(subjectId, course)]⟩) ⟨engine, []⟩

theorem take_turns (gathering : Gathering) (turns more : List Nat) :
    gathering.take moment contextOf (turns ++ more) =
      (gathering.take moment contextOf turns).take moment contextOf more := by
  rw [take, List.map_append, run_append]
  rfl

/-- Evaluations that do not take turns do not matter to those that do. -/
theorem take_append (engine : Engine) {courses : List (String × Course)} (more : List (String × Course))
    {turns : List Nat} (inside : ∀ number ∈ turns, number < courses.length) :
    Gathering.take ⟨engine, courses ++ more⟩ moment contextOf turns =
      ⟨(Gathering.take ⟨engine, courses⟩ moment contextOf turns).engine,
        (Gathering.take ⟨engine, courses⟩ moment contextOf turns).courses ++ more⟩ := by
  induction turns generalizing engine courses with
  | nil => rfl
  | cons number rest ih =>
    obtain ⟨first, others⟩ := List.forall_mem_cons.mp inside
    obtain ⟨entry, found⟩ : ∃ entry, (Gathering.mk engine courses).courses[number]? = some entry :=
      ⟨_, List.getElem?_eq_getElem first⟩
    have foundToo : (Gathering.mk engine (courses ++ more)).courses[number]? = some entry := by
      rw [List.getElem?_append_left first, found]
    show Gathering.take (step ⟨engine, courses ++ more⟩ _) moment contextOf rest =
      ⟨(Gathering.take (step ⟨engine, courses⟩ _) moment contextOf rest).engine,
        (Gathering.take (step ⟨engine, courses⟩ _) moment contextOf rest).courses ++ more⟩
    rw [step_advance foundToo, step_advance found]
    dsimp only
    rw [List.set_append_left _ _ first]
    exact ih _ (by rwa [List.length_set])

theorem round_concat (engine : Engine) (courses : List (String × Course)) (subjectId : String)
    (course : Course) :
    round engine moment contextOf (courses ++ [(subjectId, course)]) =
      let before := round engine moment contextOf courses
      let (course, engine) := course.next before.engine moment subjectId (contextOf subjectId)
      ⟨engine, before.courses ++ [(subjectId, course)]⟩ := by
  rw [round, List.foldl_append]
  rfl

theorem length_round (moment : Moment) (contextOf : String → Outcome Context) (engine : Engine)
    (courses : List (String × Course)) :
    (round engine moment contextOf courses).courses.length = courses.length := by
  induction courses using List.reverseRecOn with
  | nil => rfl
  | append_singleton rest last ih =>
    obtain ⟨subjectId, course⟩ := last
    rw [round_concat, List.length_append, List.length_append, List.length_singleton,
      List.length_singleton, ih]

/-- Where all take one turn after the other, it is a round. -/
theorem take_range (engine : Engine) (courses : List (String × Course)) :
    Gathering.take ⟨engine, courses⟩ moment contextOf (List.range courses.length) =
      round engine moment contextOf courses := by
  induction courses using List.reverseRecOn with
  | nil => rfl
  | append_singleton rest last ih =>
    have length := length_round moment contextOf engine rest
    rw [List.length_append, List.length_singleton, List.range_succ, take_turns,
      take_append engine [last] (by simp), ih, round_concat, ← length]
    generalize round engine moment contextOf rest = before
    have found : (before.courses ++ [last])[before.courses.length]? = some last :=
      List.getElem?_concat_length
    show step ⟨before.engine, before.courses ++ [last]⟩
      (.advance before.courses.length moment contextOf) = _
    rw [step_advance found]
    simp

/-- In the first round all evaluations start. -/
theorem round_asked (engine : Engine) (subjects : List String) :
    round engine moment contextOf (subjects.map fun subjectId => (subjectId, .asked)) =
      ⟨(engine.startAll moment.clock subjects).2,
        (engine.startAll moment.clock subjects).1.map (Prod.map id .ofStarted)⟩ := by
  induction subjects using List.reverseRecOn with
  | nil => rfl
  | append_singleton rest subjectId ih =>
    rw [List.map_append, List.map_singleton, round_concat, ih, Engine.startAll_concat]
    simp [Course.next]

/-- In the second round all evaluations end. -/
theorem round_begun (engine : Engine) (begun : List Engine.Begun) :
    round engine moment contextOf (begun.map (Prod.map id .ofStarted)) =
      ⟨(engine.finishAll moment contextOf begun).2,
        (engine.finishAll moment contextOf begun).1.map (Prod.map id .answered)⟩ := by
  induction begun using List.reverseRecOn with
  | nil => rfl
  | append_singleton rest last ih =>
    obtain ⟨subjectId, started⟩ := last
    rw [List.map_append, List.map_singleton, Prod.map_apply, round_concat, ih,
      Engine.finishAll_concat]
    cases started with
    | kept evaluation => simp [Course.next, Course.ofStarted, Engine.finish]
    | judging rules => simp [Course.next, Course.ofStarted]

theorem mapM_answered? (ended : List (String × Outcome Evaluation)) :
    (ended.map (Prod.map id Course.answered)).mapM answered? = some ended := by
  induction ended with
  | nil => rfl
  | cons entry rest ih =>
    rw [List.map_cons, List.mapM_cons, ih]
    rfl

/-- Evaluating several subjects side by side is one way of taking turns: all start, and then all end. -/
theorem together?_rounds (engine : Engine) (subjects : List String) :
    ((ofSubjects engine subjects).take moment contextOf
        (List.range subjects.length ++ List.range subjects.length)).together? =
      some (engine.evaluateAll moment contextOf subjects).1 := by
  let begun := engine.startAll moment.clock subjects
  have asked : (ofSubjects engine subjects).take moment contextOf (List.range subjects.length) =
      ⟨begun.2, begun.1.map (Prod.map id .ofStarted)⟩ := by
    rw [← round_asked, ← take_range, List.length_map]
    rfl
  have length : (begun.1.map (Prod.map id Course.ofStarted)).length = subjects.length := by
    rw [(engine.startAll_spec moment.clock subjects).1, List.length_map, List.length_map]
  rw [take_turns, asked, ← length, take_range, round_begun, together?, mapM_answered?,
    Engine.evaluateAll_eq]
  rfl

theorem exists_mapM_answered? {courses : List (String × Course)}
    (ended : ∀ entry ∈ courses, (answered? entry).isSome = true) :
    ∃ outcomes, courses.mapM answered? = some outcomes := by
  induction courses with
  | nil => exact ⟨[], rfl⟩
  | cons entry rest ih =>
    obtain ⟨own, others⟩ := List.forall_mem_cons.mp ended
    obtain ⟨answer, given⟩ := Option.isSome_iff_exists.mp own
    obtain ⟨more, further⟩ := ih others
    exact ⟨answer :: more, by rw [List.mapM_cons, given, further]; rfl⟩

/-- Outcomes that are what the rules come to now give every subject what it comes to on its own. -/
theorem isMapping_of_plain {outcomes : List (String × Outcome Evaluation)}
    (current : ∀ subjectId ∈ subjects, engine.IsCurrent moment contextOf subjectId)
    (plain : outcomes.map (Prod.map id Outcome.plain) =
      (distinct subjects).map fun subjectId => (subjectId, engine.afresh moment contextOf subjectId)) :
    Outcome.IsMapping outcomes subjects fun subjectId =>
      (engine.evaluate moment subjectId (contextOf subjectId)).1 := by
  have keys : outcomes.map Prod.fst = distinct subjects := by
    simpa [Function.comp_def] using congrArg (List.map Prod.fst) plain
  refine ⟨keys ▸ nodup_distinct subjects, fun subjectId => by rw [keys, mem_distinct], ?_⟩
  intro entry member
  have listed := List.mem_map_of_mem (f := Prod.map id Outcome.plain) member
  rw [plain] at listed
  obtain ⟨subjectId, asked, told⟩ := List.mem_map.mp listed
  obtain ⟨rfl, same⟩ := Prod.mk.inj told
  exact same.symm.trans (current _ (mem_distinct.mp asked)).plain_evaluate.symm

/-- Several subjects, whatever their order and however the steps of their evaluations come between each
other, come to one outcome each as soon as every evaluation has had its two turns. Where nothing has
changed since what is kept was made, it is what the subject comes to on its own, and where each of them
ends in a result or a failure, there is no other problem. Another order of the subjects gives the same. -/
theorem together_isMapping (engine : Engine) (moment : Moment)
    (contextOf : String → Outcome Context) (subjects : List String)
    (current : ∀ subjectId ∈ subjects, engine.IsCurrent moment contextOf subjectId)
    (failures : ∀ subjectId ∈ subjects, ∀ problem,
      (engine.evaluate moment subjectId (contextOf subjectId)).1 = .error problem →
        problem.isFailure = true) :
    (∀ turns : List Nat, (∀ number, number < subjects.length → 2 ≤ turns.count number) →
      ∃ together, ((ofSubjects engine subjects).take moment contextOf turns).together? = some together) ∧
    (∀ turns together,
      ((ofSubjects engine subjects).take moment contextOf turns).together? = some together →
      ∃ outcomes, together = .ok outcomes ∧
        Outcome.IsMapping outcomes subjects fun subjectId =>
          (engine.evaluate moment subjectId (contextOf subjectId)).1) ∧
    (∀ others : List String, others.Perm subjects → ∀ turns otherTurns outcomes otherOutcomes,
      ((ofSubjects engine subjects).take moment contextOf turns).together? = some (.ok outcomes) →
      ((ofSubjects engine others).take moment contextOf otherTurns).together? = some (.ok otherOutcomes) →
      (otherOutcomes.map (Prod.map id Outcome.plain)).Perm (outcomes.map (Prod.map id Outcome.plain))) := by
  have afreshFailures : ∀ subjectId ∈ subjects, ∀ problem,
      engine.afresh moment contextOf subjectId = .error problem → problem.isFailure = true := by
    intro subjectId listed problem failed
    refine failures subjectId listed problem ?_
    rw [← (current subjectId listed).plain_evaluate] at failed
    cases alone : (engine.evaluate moment subjectId (contextOf subjectId)).1 with
    | ok result => rw [alone] at failed; cases failed
    | error other => rw [alone] at failed; cases failed; rfl
  refine ⟨fun turns fair => ?_, fun turns together gathered => ?_,
    fun others perm turns otherTurns outcomes otherOutcomes gathered otherGathered => ?_⟩
  · obtain ⟨ended, answered⟩ :=
      exists_mapM_answered? (answered_of_fair engine moment contextOf fair)
    exact ⟨_, by rw [together?, answered]; rfl⟩
  · obtain ⟨outcomes, same, plain⟩ :=
      ((agrees_ofSubjects current).take turns).together afreshFailures gathered
    exact ⟨outcomes, same, isMapping_of_plain current plain⟩
  · obtain ⟨_, same, plain⟩ :=
      ((agrees_ofSubjects current).take turns).together afreshFailures gathered
    cases same
    have otherCurrent : ∀ subjectId ∈ others, engine.IsCurrent moment contextOf subjectId :=
      fun subjectId listed => current subjectId (perm.mem_iff.mp listed)
    obtain ⟨_, same, otherPlain⟩ :=
      ((agrees_ofSubjects otherCurrent).take otherTurns).together
        (fun subjectId listed => afreshFailures subjectId (perm.mem_iff.mp listed)) otherGathered
    cases same
    rw [plain, otherPlain]
    exact (distinct_perm perm).map _

/-- What is known of two students, who are alike. -/
def alike (_ : String) : Outcome Context :=
  .ok Engine.student

def visitedOnce : Engine :=
  ((ofSubjects Engine.visaAndReport ["s1", "s2"]).take Engine.morning alike [0, 0]).engine

theorem agrees_visitedOnce :
    visitedOnce.Agrees Engine.visaAndReport Engine.morning alike ["s1", "s2"] := by
  have nothing (subjectId : String) :
      Engine.visaAndReport.kept? Engine.morning.clock subjectId = none := rfl
  refine ((agrees_ofSubjects fun subjectId _ kept found => ?_).take [0, 0]).cache
  cases (nothing subjectId).symm.trans found

theorem together_isMapping_visitedOnce :
    (visitedOnce.kept? Engine.morning.clock "s1").isSome = true ∧
      (∀ subjectId ∈ ["s2", "s1", "s2"], visitedOnce.IsCurrent Engine.morning alike subjectId) ∧
      ∃ outcomes,
        ((ofSubjects visitedOnce ["s2", "s1", "s2"]).take Engine.morning alike [2, 0, 1, 2, 1, 0]).together? =
          some (.ok outcomes) ∧
        Outcome.IsMapping outcomes ["s2", "s1", "s2"] fun subjectId =>
          (visitedOnce.evaluate Engine.morning subjectId (alike subjectId)).1 := by
  have both : ["s2", "s1", "s2"] ⊆ ["s1", "s2"] := by decide
  have current : ∀ subjectId ∈ ["s2", "s1", "s2"],
      visitedOnce.IsCurrent Engine.morning alike subjectId :=
    fun subjectId listed => agrees_visitedOnce.current subjectId (both listed)
  obtain ⟨ends, spec, _⟩ := together_isMapping visitedOnce Engine.morning alike ["s2", "s1", "s2"] current
    fun subjectId _ problem failed => by
      obtain ⟨result, after, evaluated, _⟩ := visitedOnce.evaluate_cases Engine.morning subjectId Engine.student
      rw [alike, evaluated] at failed
      cases failed
  obtain ⟨together, gathered⟩ := ends [2, 0, 1, 2, 1, 0] (by decide)
  obtain ⟨outcomes, rfl, mapping⟩ := spec _ together gathered
  exact ⟨by decide +kernel, current, outcomes, gathered, mapping⟩

end Gathering

end Obligations
