import Obligations.DueDate.Calculation
import Obligations.Engine.Evaluation
import Obligations.Rule.Basic
import Obligations.Settings.Basic
import Obligations.Wording.Rendering

/-! # Judging rules

A rule is judged for a subject by its conditions; where all of them are met, its template is filled in
to a task. Whatever stands against a judgement ends in a failure that names the rule.
-/

namespace Obligations

open Obligations.Calendar Obligations.Number

namespace Rule

def templateFor (rule : Rule) (settings : EngineSettings) (context : Context) : Template :=
  if settings.universityChanges then rule.template.forUniversity context.studies.universityId
  else rule.template

/-- A due date, and how it came about. -/
structure Deadline where
  date : Date
  account : String

/-- The due date of a template: by its plan, or some days from today. -/
def dueFor (template : Template) (settings : EngineSettings) (context : Context) (today : Date) :
    Outcome Deadline :=
  match template.due, settings.smartDates with
  | some plan, true => do
    return ⟨← plan.dueDate context today, plan.describe⟩
  | _, _ => do
    let date ← Outcome.ofCalendar (today.addDays settings.dueInDays)
    return ⟨date, "default: +" ++ intText settings.dueInDays ++ " days"⟩

/-- How the due dates of a template recur, if they do. -/
def recurrence (template : Template) : Option DuePlan :=
  template.due.filter fun plan => plan.strategy = .recurring

/-- The placeholders of a template, each once. -/
def placeholders (template : Template) : List String :=
  (Wording.placeholders template.title ++ Wording.placeholders template.description).foldl
    (fun kept name => if kept.contains name then kept else kept ++ [name]) []

def placeholderValues (template : Template) (context : Context) (today : Date) :
    Outcome (List (String × Value)) :=
  (placeholders template).mapM fun name => do
    return (name, .text (← Wording.render ("\x7b" ++ name ++ "\x7d") context today))

def task (rule : Rule) (settings : EngineSettings) (context : Context) (today : Date) :
    Outcome Task := do
  let template := rule.templateFor settings context
  let due ← dueFor template settings context today
  let title ← Wording.render template.title context today
  let description ← Wording.render template.description context today
  let conditions ← .ofPrinted (Condition.describeAll? rule.conditions)
  let values ← placeholderValues template context today
  let recurring := recurrence template
  return {
    ruleId := rule.id
    title := title
    description := description
    dueDate := due.date
    deadline := .endOfDay due.date
    category := template.category
    priority := template.priority
    phase := if rule.phases.contains context.phase then context.phase
      else rule.phases.headD context.phase
    completed := context.standing.completedRules.contains rule.id
    dependencies := template.dependsOn
    autoComplete := if settings.autoCompletion then template.autoComplete else none
    isRecurring := recurring.isSome
    recurrence := recurring.bind (·.calculation)
    reminderDays := (template.reminders.map (·.intervals)).getD []
    origin := {
      phase := context.phase
      conditions := conditions
      dueDate := due.account
      placeholders := values } }

/-- The judgement of a rule, as long as nothing stands against it. -/
def judgement (rule : Rule) (settings : EngineSettings) (context : Context) (now : Timestamp) :
    Outcome Judgement := do
  let findings := Condition.evaluateAll now context.toValue rule.conditions
  if findings.all (·.passed) then
    return ⟨rule.id, findings, some (← rule.task settings context now.date), now⟩
  else return ⟨rule.id, findings, none, now⟩

/-- The judgement of a rule for a subject. -/
def judge (rule : Rule) (settings : EngineSettings) (context : Context) (now : Timestamp) :
    Outcome Judgement :=
  match rule.judgement settings context now with
  | .ok judgement => .ok judgement
  | .error problem =>
    .fail (.of .rule ("Rule " ++ rule.id ++ " evaluation failed: " ++ problem.message)
      { ruleId := some rule.id, subjectId := some context.subjectId })

end Rule

namespace Task

/-- Whether a subject has done what a task tells to complete it. -/
def isDone (task : Task) (context : Context) (now : Timestamp) : Bool :=
  match task.autoComplete with
  | none => false
  | some conditions => !conditions.isEmpty && Condition.allHold now context.toValue conditions

end Task

end Obligations
