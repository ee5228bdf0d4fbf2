import Obligations.Proofs.Engine.Tasks

/-! # What becomes of every rule

An evaluation accounts for the rules that are for the subject: each leaves one judgement or one error,
in the order of the rules, and what it leaves does not depend on the others. Every judgement of a rule
that is met carries a task. Arranging loses no task and adds none, so only the limit cuts tasks off.
-/

namespace Obligations

open Obligations.Calendar

/-- Judgements and errors that account for rules by their verdicts. The rules are taken in their order,
and each has left one judgement or one error. -/
inductive Accounts (verdict : Rule → Outcome Judgement) :
    List Rule → List Judgement → List String → Prop where
  | nil : Accounts verdict [] [] []
  | judged {rule : Rule} {rest : List Rule} {judgement : Judgement} {judgements : List Judgement}
      {errors : List String} (ended : verdict rule = .ok judgement)
      (others : Accounts verdict rest judgements errors) :
      Accounts verdict (rule :: rest) (judgement :: judgements) errors
  | failed {rule : Rule} {rest : List Rule} {problem : Problem} {judgements : List Judgement}
      {errors : List String} (ended : verdict rule = .error problem)
      (others : Accounts verdict rest judgements errors) :
      Accounts verdict (rule :: rest) judgements (problem.message :: errors)

namespace Accounts

variable {verdict : Rule → Outcome Judgement} {rules : List Rule} {judgements : List Judgement}
  {errors : List String}

theorem length_eq (accounts : Accounts verdict rules judgements errors) :
    judgements.length + errors.length = rules.length := by
  induction accounts with
  | nil => rfl
  | judged _ _ ih => simp only [List.length_cons]; omega
  | failed _ _ ih => simp only [List.length_cons]; omega

/-- A judgement is that of one of the rules. -/
theorem exists_of_mem (accounts : Accounts verdict rules judgements errors) {judgement : Judgement}
    (member : judgement ∈ judgements) : ∃ rule ∈ rules, verdict rule = .ok judgement := by
  induction accounts with
  | nil => cases member
  | @judged rule _ _ _ _ ended _ ih =>
    rcases List.mem_cons.mp member with rfl | later
    · exact ⟨rule, List.mem_cons_self, ended⟩
    · obtain ⟨other, listed, success⟩ := ih later
      exact ⟨other, List.mem_cons_of_mem _ listed, success⟩
  | failed _ _ ih =>
    obtain ⟨other, listed, success⟩ := ih member
    exact ⟨other, List.mem_cons_of_mem _ listed, success⟩

theorem mem_errors (accounts : Accounts verdict rules judgements errors) {rule : Rule}
    (listed : rule ∈ rules) {problem : Problem} (ended : verdict rule = .error problem) :
    problem.message ∈ errors := by
  induction accounts with
  | nil => cases listed
  | judged success _ ih =>
    rcases List.mem_cons.mp listed with rfl | later
    · cases ended.symm.trans success
    · exact ih later
  | failed failure _ ih =>
    rcases List.mem_cons.mp listed with rfl | later
    · cases ended.symm.trans failure
      exact List.mem_cons_self
    · exact List.mem_cons_of_mem _ (ih later)

section Named

variable (named : ∀ rule judgement, verdict rule = .ok judgement → judgement.ruleId = rule.id)

include named

/-- No judgement names a rule that is not accounted for. -/
theorem filter_eq_nil (accounts : Accounts verdict rules judgements errors) {id : String}
    (absent : id ∉ rules.map (·.id)) : judgements.filter (·.ruleId == id) = [] := by
  rw [List.filter_eq_nil_iff]
  intro judgement member same
  obtain ⟨rule, listed, ended⟩ := accounts.exists_of_mem member
  apply absent
  rw [← beq_iff_eq.mp same, named rule judgement ended]
  exact List.mem_map_of_mem listed

/-- The judgements in the name of one of several different rules: its own, if it left one. -/
theorem filter_eq (accounts : Accounts verdict rules judgements errors)
    (distinct : (rules.map (·.id)).Nodup) {rule : Rule} (listed : rule ∈ rules) :
    judgements.filter (·.ruleId == rule.id) = (verdict rule).toOption.toList := by
  induction accounts with
  | nil => cases listed
  | @judged first rest judgement _ _ ended others ih =>
    obtain ⟨fresh, distinctRest⟩ := List.nodup_cons.mp distinct
    rcases List.mem_cons.mp listed with rfl | later
    · have own : (judgement.ruleId == rule.id) = true := by simp [named rule judgement ended]
      rw [List.filter_cons, if_pos own, others.filter_eq_nil named fresh, ended]
      rfl
    · have foreign : ¬ (judgement.ruleId == rule.id) = true := by
        rw [named first judgement ended, beq_iff_eq]
        intro same
        exact fresh (List.mem_map.mpr ⟨rule, later, same.symm⟩)
      rw [List.filter_cons, if_neg foreign, ih distinctRest later]
  | failed ended others ih =>
    obtain ⟨fresh, distinctRest⟩ := List.nodup_cons.mp distinct
    rcases List.mem_cons.mp listed with rfl | later
    · rw [others.filter_eq_nil named fresh, ended]
      rfl
    · exact ih distinctRest later

end Named

end Accounts

namespace Rule

variable {rule : Rule} {settings : EngineSettings} {context : Context} {now : Timestamp}

/-- A judgement has the findings on the conditions of its rule, and a task exactly if all are met. -/
theorem findings_of_judge_eq_ok {judgement : Judgement}
    (judged : rule.judge settings context now = .ok judgement) :
    judgement.findings = Condition.evaluateAll now context.toValue rule.conditions ∧
      judgement.task.isSome = judgement.findings.all (·.passed) := by
  rw [judge_eq_ok_iff, Rule.judgement] at judged
  split at judged
  next met =>
    obtain ⟨task, made, same⟩ := Outcome.bind_eq_ok.mp judged
    cases same
    exact ⟨rfl, met.symm⟩
  next unmet =>
    cases judged
    exact ⟨rfl, by simpa using unmet⟩

end Rule

namespace Evaluation

def judgementsOf (evaluation : Evaluation) (id : String) : List Judgement :=
  evaluation.judgements.filter (·.ruleId == id)

/-- Whether an evaluation holds of a rule what judging it came to: the judgement and no other in the
name of the rule, or the error and no judgement. -/
def Holds (evaluation : Evaluation) (rule : Rule) : Outcome Judgement → Prop
  | .ok judgement => evaluation.judgementsOf rule.id = [judgement]
  | .error problem =>
    evaluation.judgementsOf rule.id = [] ∧ problem.message ∈ evaluation.errors

/-- An evaluation that accounts for given rules: `problems` are the errors of the rules and `faults`
those of their prerequisites. -/
structure IsAccountOf (evaluation : Evaluation) (settings : EngineSettings) (rules : List Rule)
    (context : Context) (now : Timestamp) (problems faults : List String) : Prop where
  errors : evaluation.errors = problems ++ faults
  each : Accounts (·.judge settings context now) rules evaluation.judgements problems
  judged : ∀ judgement ∈ evaluation.judgements, ∃ rule ∈ rules, judgement.ruleId = rule.id ∧
    judgement.findings = Condition.evaluateAll now context.toValue rule.conditions ∧
    judgement.isMatch = judgement.findings.all (·.passed) ∧
    (judgement.isMatch = true ↔ ∃ task, judgement.task = some task ∧ task.ruleId = rule.id)
  refused : ∀ problem ∈ problems, ∃ rule ∈ rules, ∃ reason,
    problem = "Rule " ++ rule.id ++ " evaluation failed: " ++ reason
  distinct : evaluation.tasks.ids.Nodup
  ofMet : ∀ task ∈ evaluation.tasks, ∃ judgement ∈ evaluation.judgements, ∃ original,
    judgement.task = some original ∧ judgement.ruleId = task.ruleId ∧
      (task = original ∨ task = evaluation.met.settled original)
  length_tasks : evaluation.tasks.length =
    min settings.taskLimit (evaluation.judgements.filter (·.isMatch)).length
  fault : faults = [] ∨ ∃ reason, faults = ["Dependency resolution failed: " ++ reason] ∧
    evaluation.tasks = evaluation.met.take settings.taskLimit
  summary : evaluation.summary = if settings.summarizes then
      some ⟨evaluation.judgements.length + problems.length,
        (evaluation.judgements.filter (·.isMatch)).length, evaluation.tasks.length⟩
    else none

end Evaluation

namespace Engine

variable {settings : EngineSettings} {context : Context} {now : Timestamp} {rules : List Rule}

/-- Judging rules one by one accounts for them. -/
theorem accounts_judgeAll (settings : EngineSettings) (context : Context) (now : Timestamp)
    (rules : List Rule) :
    Accounts (·.judge settings context now) rules (rules.filterMap (·.judgement? settings context now))
      (rules.filterMap (·.error? settings context now)) := by
  induction rules with
  | nil => exact .nil
  | cons rule rest ih =>
    cases ended : rule.judge settings context now with
    | ok judgement =>
      have kept : rule.judgement? settings context now = some judgement :=
        Rule.judgement?_eq_some_iff.mpr ended
      have none : rule.error? settings context now = none := by rw [Rule.error?, ended]
      rw [List.filterMap_cons, List.filterMap_cons, kept, none]
      exact .judged ended ih
    | error problem =>
      have none : rule.judgement? settings context now = none := by rw [Rule.judgement?, ended]; rfl
      have kept : rule.error? settings context now = some problem.message := by
        rw [Rule.error?, ended]
      rw [List.filterMap_cons, List.filterMap_cons, none, kept]
      exact .failed ended ih

/-- Arranging leaves the tasks as they are, or settles each of them once. -/
theorem arrange_perm (settings : EngineSettings) {tasks : Batch} (fresh : tasks.IsFresh) :
    (arrange settings tasks).1 = tasks ∨
      (arrange settings tasks).2 = [] ∧ (arrange settings tasks).1.Perm (tasks.map tasks.settled) := by
  rcases arrange_cases settings tasks with ⟨same, _⟩ | ⟨_, same⟩ | ⟨result, resolved, same⟩
  · exact Or.inl (by rw [same])
  · exact Or.inl (by rw [same])
  · rw [same]
    exact Or.inr ⟨rfl, (Batch.of_resolved_eq_ok fresh.distinct resolved).1⟩

theorem length_arrange {tasks : Batch} (fresh : tasks.IsFresh) :
    (arrange settings tasks).1.length = tasks.length := by
  rcases arrange_perm settings fresh with same | ⟨_, settled⟩
  · rw [same]
  · rw [settled.length_eq, List.length_map]

/-- A task that has been arranged is as it was, or settled. -/
theorem eq_or_settled_of_mem_arrange {tasks : Batch} (fresh : tasks.IsFresh) {task : Task}
    (member : task ∈ (arrange settings tasks).1) :
    ∃ original ∈ tasks, task = original ∨ task = tasks.settled original := by
  rcases arrange_perm settings fresh with same | ⟨_, settled⟩
  · exact ⟨task, by rwa [same] at member, Or.inl rfl⟩
  · obtain ⟨original, listed, rfl⟩ := List.mem_map.mp (settled.mem_iff.mp member)
    exact ⟨original, listed, Or.inr rfl⟩

/-- There is at most one fault, and with it the tasks stay as they are. -/
theorem fault_arrange (settings : EngineSettings) (tasks : Batch) :
    (arrange settings tasks).2 = [] ∨
      ∃ reason, (arrange settings tasks).2 = ["Dependency resolution failed: " ++ reason] ∧
        (arrange settings tasks).1 = tasks := by
  rcases arrange_cases settings tasks with ⟨same, _⟩ | ⟨reason, same⟩ | ⟨_, _, same⟩
  · exact Or.inl (by rw [same])
  · exact Or.inr ⟨reason, by rw [same], by rw [same]⟩
  · exact Or.inl (by rw [same])

theorem summary_evaluation (subjectId : String) :
    (evaluation settings rules subjectId context now).summary = if settings.summarizes then
        some ⟨(applicable rules context).length,
          ((evaluation settings rules subjectId context now).judgements.filter (·.isMatch)).length,
          (evaluation settings rules subjectId context now).tasks.length⟩
      else none :=
  rfl

/-- Each rule that is met has put one task. -/
theorem length_met (evaluation : Evaluation) :
    evaluation.met.length = (evaluation.judgements.filter (·.isMatch)).length := by
  rw [Evaluation.met, List.length_filterMap_eq_countP, List.countP_eq_length_filter]
  rfl

/-- An evaluation of different rules accounts for those that are for the subject. -/
theorem evaluation_isAccountOf (subjectId : String) (distinct : (rules.map (·.id)).Nodup) :
    (evaluation settings rules subjectId context now).IsAccountOf settings
      (applicable rules context) context now
      ((applicable rules context).filterMap (·.error? settings context now))
      (arrange settings (tasksOf settings context now (applicable rules context))).2 := by
  have accounts := accounts_judgeAll settings context now (applicable rules context)
  rw [← judgements_evaluation subjectId] at accounts
  have fresh : (tasksOf settings context now (applicable rules context)).IsFresh :=
    tasksOf_isFresh (distinct_applicable distinct)
  refine
    { errors := errors_evaluation subjectId
      each := accounts
      judged := ?_
      refused := ?_
      distinct := (tasks_evaluation_isSound subjectId distinct).distinct
      ofMet := ?_
      length_tasks := ?_
      fault := ?_
      summary := ?_ }
  · intro judgement member
    obtain ⟨rule, listed, ended⟩ := accounts.exists_of_mem member
    obtain ⟨named, isTask⟩ := Rule.of_judge_eq_ok ended
    obtain ⟨findings, matches'⟩ := Rule.findings_of_judge_eq_ok ended
    refine ⟨rule, listed, named, findings, matches', ?_⟩
    rw [Judgement.isMatch, Option.isSome_iff_exists]
    constructor
    · rintro ⟨task, made⟩
      exact ⟨task, made, (isTask task made).ruleId⟩
    · rintro ⟨task, made, _⟩
      exact ⟨task, made⟩
  · intro problem member
    obtain ⟨rule, listed, failed⟩ := List.mem_filterMap.mp member
    obtain ⟨reason, same⟩ := Rule.error?_eq_some failed
    exact ⟨rule, listed, reason, same⟩
  · intro task member
    rw [tasks_evaluation] at member
    obtain ⟨original, listed, same⟩ := eq_or_settled_of_mem_arrange fresh (List.mem_of_mem_take member)
    rw [← met_evaluation subjectId] at listed same
    obtain ⟨judgement, judged, made⟩ := List.mem_filterMap.mp listed
    obtain ⟨rule, _, ended⟩ := accounts.exists_of_mem judged
    obtain ⟨named, isTask⟩ := Rule.of_judge_eq_ok ended
    have ruleId : original.ruleId = task.ruleId := by
      rcases same with rfl | rfl
      · rfl
      · rw [Batch.ruleId_settled]
    refine ⟨judgement, judged, original, made, ?_, same⟩
    rw [named, ← (isTask original made).ruleId, ruleId]
  · rw [tasks_evaluation, List.length_take, length_arrange fresh, ← met_evaluation subjectId, length_met]
  · rw [tasks_evaluation, met_evaluation]
    rcases fault_arrange settings (tasksOf settings context now (applicable rules context)) with
      none | ⟨reason, one, unchanged⟩
    · exact Or.inl none
    · exact Or.inr ⟨reason, one, by rw [unchanged]⟩
  · rw [summary_evaluation, ← accounts.length_eq]

/-- An evaluation holds of a rule what judging the rule comes to. -/
theorem evaluation_holds (subjectId : String) (distinct : (rules.map (·.id)).Nodup) {rule : Rule}
    (listed : rule ∈ applicable rules context) :
    (evaluation settings rules subjectId context now).Holds rule
      (rule.judge settings context now) := by
  have account : (evaluation settings rules subjectId context now).IsAccountOf settings
      (applicable rules context) context now _ _ :=
    evaluation_isAccountOf subjectId distinct
  have own := account.each.filter_eq (fun _ _ ended => (Rule.of_judge_eq_ok ended).1)
    (distinct_applicable distinct) listed
  cases ended : rule.judge settings context now with
  | ok judgement =>
    rw [ended] at own
    exact own
  | error problem =>
    rw [ended] at own
    refine ⟨own, ?_⟩
    rw [account.errors]
    exact List.mem_append_left _ (account.each.mem_errors listed ended)

/-- A full evaluation of loaded rules accounts for all rules that are for the subject. Of a rule that
another engine has as well, among whatever other rules, both hold the same. -/
theorem evaluate_isAccountOf {origin loaded : Engine} {drafts : List Draft}
    (accepted : origin.load drafts = .ok loaded)
    (engine : Engine) (current : engine.rules = loaded.rules) (moment : Moment) (subjectId : String)
    (context : Context) :
    ∃ result after, engine.evaluate moment subjectId (.ok context) = (.ok result, after) ∧
      (result.isKept = false →
        (∃ problems faults, result.IsAccountOf engine.settings (applicable engine.rules context)
          context moment.now problems faults) ∧
        ∀ (otherOrigin otherLoaded : Engine) (otherDrafts : List Draft),
          otherOrigin.load otherDrafts = .ok otherLoaded →
          ∀ other : Engine, other.rules = otherLoaded.rules → other.settings = engine.settings →
          ∀ otherResult otherAfter,
            other.evaluate moment subjectId (.ok context) = (.ok otherResult, otherAfter) →
            otherResult.isKept = false →
            ∀ rule ∈ applicable engine.rules context, rule ∈ other.rules →
              result.Holds rule (rule.judge engine.settings context moment.now) ∧
              otherResult.Holds rule (rule.judge engine.settings context moment.now)) := by
  obtain ⟨result, after, evaluated, kept | rfl⟩ := evaluate_cases engine moment subjectId context
  · exact ⟨result, after, evaluated, fun full => by rw [full] at kept; cases kept⟩
  · have distinct : (engine.rules.map (·.id)).Nodup := current ▸ distinct_of_load accepted
    refine ⟨_, after, evaluated, fun _ =>
      ⟨⟨_, _, evaluation_isAccountOf subjectId distinct⟩, ?_⟩⟩
    intro _ _ _ otherAccepted other otherCurrent sameSettings otherResult otherAfter otherEvaluated
      full rule chosen listed
    refine ⟨evaluation_holds subjectId distinct chosen, ?_⟩
    have otherDistinct : (other.rules.map (·.id)).Nodup :=
      otherCurrent ▸ distinct_of_load otherAccepted
    obtain ⟨ended, _, sameRun, otherKept | rfl⟩ := evaluate_cases other moment subjectId context
    · obtain rfl : otherResult = ended :=
        Except.ok.inj (Prod.mk.inj (otherEvaluated.symm.trans sameRun)).1
      rw [full] at otherKept
      cases otherKept
    · obtain rfl := Except.ok.inj (Prod.mk.inj (otherEvaluated.symm.trans sameRun)).1
      rw [← sameSettings]
      have chosenThere : rule ∈ applicable other.rules context :=
        List.mem_filter.mpr ⟨listed, (List.mem_filter.mp chosen).2⟩
      exact evaluation_holds subjectId otherDistinct chosenThere

/-- A rule whose due date lies behind a date that the student does not have. -/
def undated : Rule :=
  { selfRequiring with
    id := "fee"
    template := {
      title := "Pay the fee"
      due := some {
        strategy := .relative
        base := some "dates.optEndDate"
        offset := some ⟨30, .day⟩ } } }

/-- The engine with a rule that cannot be judged for the student between two that can. -/
def withUndated : Engine :=
  { ofSettings {} with rules := [requiring, undated, selfRequiring] }

theorem load_withUndated :
    (ofSettings {}).load [undated.toDraft, selfRequiring.toDraft, requiring.toDraft] =
      .ok withUndated := by
  have order : ruleSet [undated, selfRequiring, requiring] = [requiring, undated, selfRequiring] := by
    rw [ruleSet, keepHighest_of_distinct _ _ (by decide)]
    simp [List.mergeSort, List.MergeSort.Internal.splitInTwo, requiring, selfRequiring, undated]
  exact load_toDraft (by decide) order

/-- What the three rules come to for the student. -/
def undatedOfStudent : Evaluation :=
  evaluation {} withUndated.rules "s1" student morning.now

theorem rules_undatedOfStudent :
    undatedOfStudent.judgements.map (·.ruleId) = ["report", "visa"] ∧
      undatedOfStudent.errors = ["Rule fee evaluation failed: Base date field dates.optEndDate not found in user context"] := by
  decide +kernel

theorem evaluate_isAccountOf_withUndated :
    ∃ result after, (ofSettings {}).load [undated.toDraft, selfRequiring.toDraft, requiring.toDraft] =
        .ok withUndated ∧
      withUndated.evaluate morning "s1" (.ok student) = (.ok result, after) ∧
      result.judgements.map (·.ruleId) = ["report", "visa"] ∧
      result.errors = ["Rule fee evaluation failed: Base date field dates.optEndDate not found in user context"] ∧
      (∃ problems faults, result.IsAccountOf {} (applicable withUndated.rules student) student
        morning.now problems faults) ∧
      result.Holds requiring (requiring.judge {} student morning.now) ∧
      ofStudent.Holds requiring (requiring.judge {} student morning.now) := by
  obtain ⟨result, after, evaluated, spec⟩ :=
    evaluate_isAccountOf load_withUndated withUndated rfl morning "s1" student
  have same : ∃ after, withUndated.evaluate morning "s1" (.ok student) =
      (.ok undatedOfStudent, after) := ⟨_, rfl⟩
  obtain ⟨_, same⟩ := same
  obtain rfl : result = undatedOfStudent :=
    Except.ok.inj (Prod.mk.inj (evaluated.symm.trans same)).1
  obtain ⟨account, isolated⟩ := spec rfl
  obtain ⟨otherAfter, otherEvaluated⟩ := evaluate_visaAndReport
  have chosen : requiring ∈ applicable withUndated.rules student :=
    List.mem_filter.mpr ⟨by simp [withUndated], by decide⟩
  have both := isolated _ _ _ load_visaAndReport visaAndReport rfl rfl ofStudent otherAfter
    otherEvaluated rfl requiring chosen (by simp [visaAndReport])
  exact ⟨_, after, load_withUndated, evaluated, rules_undatedOfStudent.1, rules_undatedOfStudent.2,
    account, both.1, both.2⟩

end Engine

end Obligations
