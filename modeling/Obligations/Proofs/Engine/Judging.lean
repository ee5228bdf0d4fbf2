import Obligations.Engine.Basic
import Obligations.Proofs.Outcome

/-! # Judgements one by one

Every rule that is judged leaves one judgement or one error, in the order of the rules. What a rule
leaves does not depend on the others.
-/

namespace Obligations

open Obligations.Calendar

namespace Rule

variable {rule : Rule} {settings : EngineSettings} {context : Context} {now : Timestamp}

/-- What a task has from its rule. Nothing stands in its way yet. -/
structure IsTask (rule : Rule) (settings : EngineSettings) (context : Context) (task : Task) :
    Prop where
  ruleId : task.ruleId = rule.id
  dependencies : task.dependencies = (rule.templateFor settings context).dependsOn
  completed : task.completed = context.standing.completedRules.contains rule.id
  unblocked : task.isBlocked = false
  waitsForNone : task.blockedBy = []

theorem isTask_of_task {today : Date} {task : Task}
    (made : rule.task settings context today = .ok task) :
    rule.IsTask settings context task := by
  rw [Rule.task] at made
  simp only [Outcome.bind_eq_ok] at made
  obtain ⟨due, _, title, _, description, _, conditions, _, values, _, same⟩ := made
  cases same
  exact ⟨rfl, rfl, rfl, rfl, rfl⟩

theorem judge_eq_ok_iff {judgement : Judgement} :
    rule.judge settings context now = .ok judgement ↔
      rule.judgement settings context now = .ok judgement := by
  rw [judge]
  cases rule.judgement settings context now with
  | ok other => rfl
  | error problem => simp [Outcome.fail]

/-- A judgement names its rule, and its task is one of the rule. -/
theorem of_judge_eq_ok {judgement : Judgement}
    (judged : rule.judge settings context now = .ok judgement) :
    judgement.ruleId = rule.id ∧ ∀ task, judgement.task = some task →
      rule.IsTask settings context task := by
  rw [judge_eq_ok_iff, Rule.judgement] at judged
  split at judged
  · obtain ⟨task, made, same⟩ := Outcome.bind_eq_ok.mp judged
    cases same
    exact ⟨rfl, fun _ same => Option.some.inj same ▸ isTask_of_task made⟩
  · cases judged
    exact ⟨rfl, fun _ none => nomatch none⟩

/-- What stands against a judgement names the rule. -/
theorem of_judge_eq_error {problem : Problem}
    (failed : rule.judge settings context now = .error problem) :
    ∃ reason, problem.message = "Rule " ++ rule.id ++ " evaluation failed: " ++ reason := by
  rw [judge] at failed
  cases judged : rule.judgement settings context now with
  | ok judgement => rw [judged] at failed; cases failed
  | error other =>
    rw [judged] at failed
    cases failed
    exact ⟨other.message, rfl⟩

def judgement? (rule : Rule) (settings : EngineSettings) (context : Context) (now : Timestamp) :
    Option Judgement :=
  (rule.judge settings context now).toOption

def error? (rule : Rule) (settings : EngineSettings) (context : Context) (now : Timestamp) :
    Option String :=
  match rule.judge settings context now with
  | .ok _ => none
  | .error problem => some problem.message

theorem judgement?_eq_some_iff {judgement : Judgement} :
    rule.judgement? settings context now = some judgement ↔
      rule.judge settings context now = .ok judgement := by
  rw [judgement?]
  cases rule.judge settings context now <;> simp [Except.toOption]

theorem error?_eq_some {error : String} (failed : rule.error? settings context now = some error) :
    ∃ reason, error = "Rule " ++ rule.id ++ " evaluation failed: " ++ reason := by
  rw [error?] at failed
  cases judged : rule.judge settings context now with
  | ok judgement => rw [judged] at failed; cases failed
  | error problem =>
    rw [judged] at failed
    cases failed
    exact of_judge_eq_error judged

end Rule

namespace Engine

variable (settings : EngineSettings) (context : Context) (now : Timestamp)

/-- Judging all rules keeps the judgements of those that can be judged and the errors of the others. -/
theorem judgeAll_eq (rules : List Rule) :
    judgeAll settings context now rules =
      ⟨rules.filterMap (·.judgement? settings context now),
        rules.filterMap (·.error? settings context now)⟩ := by
  suffices grown : ∀ verdicts : Verdicts, rules.foldl (Verdicts.add settings context now) verdicts =
      ⟨verdicts.judgements ++ rules.filterMap (·.judgement? settings context now),
        verdicts.errors ++ rules.filterMap (·.error? settings context now)⟩ from grown {}
  induction rules with
  | nil => simp
  | cons rule rest ih =>
    intro verdicts
    rw [List.foldl_cons, ih, Verdicts.add, List.filterMap_cons, List.filterMap_cons,
      Rule.judgement?, Rule.error?]
    cases rule.judge settings context now <;> simp [Except.toOption]

def tasksOf (rules : List Rule) : Batch :=
  (rules.filterMap (·.judgement? settings context now)).filterMap (·.task)

theorem mem_tasksOf_iff {rules : List Rule} {task : Task} :
    task ∈ tasksOf settings context now rules ↔
      ∃ rule ∈ rules, ∃ judgement, rule.judge settings context now = .ok judgement ∧
        judgement.task = some task := by
  simp only [tasksOf, List.mem_filterMap, Rule.judgement?_eq_some_iff]
  constructor
  · rintro ⟨judgement, ⟨rule, member, judged⟩, made⟩
    exact ⟨rule, member, judgement, judged, made⟩
  · rintro ⟨rule, member, judgement, judged, made⟩
    exact ⟨judgement, ⟨rule, member, judged⟩, made⟩

theorem isTask_of_mem_tasksOf {rules : List Rule} {task : Task}
    (member : task ∈ tasksOf settings context now rules) :
    ∃ rule ∈ rules, rule.IsTask settings context task := by
  obtain ⟨rule, listed, judgement, judged, made⟩ := (mem_tasksOf_iff settings context now).mp member
  exact ⟨rule, listed, (Rule.of_judge_eq_ok judged).2 task made⟩

/-- The tasks of different rules are different. -/
theorem ids_tasksOf_sublist (rules : List Rule) :
    (tasksOf settings context now rules).ids.Sublist (rules.map (·.id)) := by
  induction rules with
  | nil => exact List.nil_sublist _
  | cons rule rest ih =>
    rw [tasksOf, List.filterMap_cons]
    cases judged : rule.judgement? settings context now with
    | none => exact ih.cons _
    | some judgement =>
      rw [List.filterMap_cons]
      cases made : judgement.task with
      | none => exact ih.cons _
      | some task =>
        have named := ((Rule.of_judge_eq_ok (Rule.judgement?_eq_some_iff.mp judged)).2 task made).ruleId
        simp only [Batch.ids, List.map_cons, named]
        exact ih.cons_cons _

end Engine

end Obligations
