import Obligations.Pattern.Reader
import Obligations.Prerequisites.Graph
import Obligations.Rule.Draft
import Obligations.Text.Blank
import Obligations.Wording.Lint

/-! # Checking rules

What is wrong with rules beyond their form: missing parts, operands that do not fit their comparison,
placeholders that ask for nothing, and prerequisites that are unknown or form a cycle. Errors make a
rule unusable and warnings do not.
-/

namespace Obligations

open Obligations.Text

/-- What a check has found. -/
structure Report where
  errors : List String := []
  warnings : List String := []
deriving DecidableEq, Repr

namespace Report

/-- Whether there are no errors. -/
def isValid (report : Report) : Bool :=
  report.errors.isEmpty

def append (first second : Report) : Report :=
  ⟨first.errors ++ second.errors, first.warnings ++ second.warnings⟩

instance : Append Report := ⟨append⟩

/-- A report with a label before every line. -/
def labelled (label : String) (report : Report) : Report :=
  ⟨report.errors.map (label ++ ·), report.warnings.map (label ++ ·)⟩

def ofErrors (errors : List String) : Report :=
  ⟨errors, []⟩

def errorIf (wrong : Bool) (error : String) : Report :=
  ofErrors (if wrong then [error] else [])

end Report

def isBlankText (content : Option String) : Bool :=
  content.all fun content => (trim content).isEmpty

namespace Requirement

def operandFault? (requirement : Requirement) : Outcome (Option String) :=
  match requirement.comparison, requirement.operand with
  | .between, .list [_, _] => .ok none
  | .between, _ => .ok (some "between requires exactly two values")
  | .isIn, .list _ => .ok none
  | .isIn, _ => .ok (some "in requires a list value")
  | .notIn, .list _ => .ok none
  | .notIn, _ => .ok (some "notIn requires a list value")
  | .regex, operand => do
    let pattern ← .ofPrinted operand.shown?
    match Pattern.ofText pattern with
    | .ok _ => .ok none
    | .error (.malformed kind position) =>
      .ok (some ("invalid regex pattern (" ++
        Pattern.Fault.message pattern.toList (.malformed kind position) ++ ")"))
    | .error fault => .mishap (.pattern fault)
  | _, _ => .ok none

def errors (requirement : Requirement) : Outcome (List String) := do
  let fault ← requirement.operandFault?
  return (if isBlankText (some requirement.field) then ["field is required"] else []) ++ fault.toList

end Requirement

namespace Condition

mutual

/-- The errors of a condition, each with the label of the condition that it is about. -/
def errors (label : String) : Condition → Outcome (List String)
  | .leaf requirement => do
    return (← requirement.errors).map (label ++ ": " ++ ·)
  | .group members _ _ => do
    let nested ← errorsOfAll label 0 members
    return (if members.isEmpty then
        [label ++ ": nested group must contain at least one condition"] else []) ++ nested

/-- The errors of the conditions of a group, from an index on. -/
def errorsOfAll (label : String) (index : Nat) : List Condition → Outcome (List String)
  | [] => .ok []
  | condition :: rest => do
    let found ← condition.errors (label ++ "." ++ Number.intText index)
    return found ++ (← errorsOfAll label (index + 1) rest)

end

end Condition

namespace Slot

/-- The errors of a place for a condition. -/
def errors (label : String) : Slot → Outcome (List String)
  | .condition content => content.errors label
  | .unrecognized _ => .ok [label ++ ": unrecognized condition node"]

/-- The errors of places for conditions, numbered from an index on. -/
def errorsFrom (index : Nat) : List Slot → Outcome (List String)
  | [] => .ok []
  | slot :: rest => do
    let found ← slot.errors ("Condition " ++ Number.intText index)
    return found ++ (← errorsFrom (index + 1) rest)

end Slot

namespace Template

/-- What is wrong with the template of a rule. -/
def check (template : Template) (id : Option String) : Outcome Report := do
  let completion ← (template.autoComplete.getD []).mapM (·.errors "Auto-complete condition")
  return Report.errorIf (isBlankText (some template.title)) "Task title template is required" ++
    Report.errorIf (id.any template.dependsOn.contains) "Rule cannot depend on itself" ++
    Report.ofErrors completion.flatten ++
    ⟨[], Wording.warnings template.title ++ Wording.warnings template.description⟩

end Template

namespace Draft

def partErrors (draft : Draft) : Report :=
  .errorIf (isBlankText draft.id) "Rule ID is required" ++
  .errorIf (isBlankText draft.name) "Rule name is required" ++
  .errorIf (draft.conditions.all (·.isEmpty)) "At least one condition is required" ++
  .errorIf (draft.visaTypes.all (·.isEmpty)) "At least one visa type is required" ++
  .errorIf (draft.phases.all (·.isEmpty)) "At least one phase is required"

/-- What is wrong with a draft. Without a template nothing else is looked at. -/
def check (draft : Draft) : Outcome Report :=
  match draft.template with
  | none => .ok (draft.partErrors ++ .ofErrors ["Task template is required"])
  | some template => do
    let conditions ← Slot.errorsFrom 0 (draft.conditions.getD [])
    return draft.partErrors ++ .ofErrors conditions ++ (← template.check draft.id)

/-- The label of a draft before the lines of a report. -/
def label (draft : Draft) : String :=
  "[" ++ draft.idText ++ "] "

/-- The rules that a draft comes behind. -/
def dependsOn (draft : Draft) : Outcome (List String) :=
  match draft.template with
  | some template => .ok template.dependsOn
  | none => .mishap .notRecord

/-- What is wrong with a draft among others. -/
def checkAmong (known : List (Option String)) (draft : Draft) : Outcome Report := do
  let report ← draft.check
  let unknown := (← draft.dependsOn).filter fun id => !known.contains (some id)
  return report.labelled draft.label ++
    ⟨[], unknown.map fun id => draft.label ++ "Unknown prerequisite rule: " ++ id⟩

end Draft

/-- The members of a list, each once, in the order in which they come first. -/
def distinct {α : Type} [DecidableEq α] (items : List α) : List α :=
  items.foldl (fun kept item => if kept.contains item then kept else kept ++ [item]) []

def prerequisiteGraph (drafts : List Draft) : Outcome (Graph (Option String)) := do
  let known := drafts.map (·.id)
  let entries ← drafts.mapM fun draft => do
    return (draft.id, ((← draft.dependsOn).map some).filter known.contains)
  return .ofEntries entries

/-- What is wrong with a set of rules. -/
def checkSet (drafts : List Draft) : Outcome Report := do
  let ids := drafts.map (·.id)
  let repeated := (distinct ids).filter fun id => 1 < ids.count id
  let reports ← drafts.mapM (·.checkAmong ids)
  let graph ← prerequisiteGraph drafts
  let cycle := graph.cycle?.map fun nodes =>
    "Dependency cycle: " ++ joined " -> " (nodes.map (·.getD "None"))
  return Report.ofErrors (repeated.map fun id => "Duplicate rule ID: " ++ id.getD "None") ++
    reports.foldl (· ++ ·) {} ++ Report.ofErrors cycle.toList

/-- The errors of rules, each with the label of its rule. -/
def errorsOfRules (drafts : List Draft) : Outcome (List String) := do
  let reports ← drafts.mapM fun draft => do
    return ((← draft.check).labelled draft.label).errors
  return reports.flatten

end Obligations
