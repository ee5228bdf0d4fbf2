import Obligations.Rule.Template

/-! # Rules

A rule names the subjects that it is for, the conditions under which it obliges them, and the
template of the obligation.
-/

namespace Obligations

open Obligations.Calendar Obligations.Schema

/-- The topics of rules. -/
inductive RuleGroup where
  | visaStatus
  | academic
  | employment
  | documents
  | deadlines
  | reporting
  | travel
  | universitySpecific
  | emergency
deriving DecidableEq, Repr

namespace RuleGroup

/-- All topics. -/
def all : List RuleGroup :=
  [.visaStatus, .academic, .employment, .documents, .deadlines, .reporting, .travel,
   .universitySpecific, .emergency]

def code : RuleGroup → String
  | .visaStatus => "visa_status"
  | .academic => "academic"
  | .employment => "employment"
  | .documents => "documents"
  | .deadlines => "deadlines"
  | .reporting => "reporting"
  | .travel => "travel"
  | .universitySpecific => "university_specific"
  | .emergency => "emergency"

/-- The topic with a given code. -/
def ofCode? (code : String) : Option RuleGroup :=
  all.find? (·.code == code)

end RuleGroup

structure Rule where
  id : String
  name : String
  description : String := ""
  group : RuleGroup
  phases : List Phase
  visaTypes : List VisaType
  conditions : List Condition
  template : Template
  priority : Int := 50
  isActive : Bool := true
  version : String := "1.0.0"
  createdAt : Option Timestamp := none
  updatedAt : Option Timestamp := none
  /-- The one university that the rule is for. -/
  university : Option String := none
  tags : List String := []

/-- Whether a rule of a given scope is for a subject of a university. -/
def isInScope (scope : Option String) (university : Option String) : Bool :=
  match scope with
  | none => true
  | some only => only.isEmpty || university == some only

namespace Rule

/-- Whether a rule is for subjects of a kind of status, in a stage, at a university. Rules for the
general stage are for all stages. -/
def applies (rule : Rule) (visa : VisaType) (phase : Phase) (university : Option String) : Bool :=
  rule.isActive && rule.visaTypes.contains visa &&
    (rule.phases.contains phase || rule.phases.contains .general) &&
    isInScope rule.university university

/-- Stages in a list, or a single stage. -/
def phasesReader : Reader (List Phase) := fun value =>
  match value.asText? with
  | some _ => Reader.listOf (Reader.code Phase.ofCode?) (.list [value])
  | none => Reader.listOf (Reader.code Phase.ofCode?) value

def ofMembers (members : List (String × Value)) : Checked Rule :=
  Rule.mk
    <$> (Key.plain "id").required Reader.text members
    <*> (Key.plain "name").required Reader.text members
    <*> (Key.plain "description").withDefault "" Reader.text members
    <*> (Key.mk "ruleGroup" "rule_group").required (Reader.code RuleGroup.ofCode?) members
    <*> (Key.mk "phase" "phases").required phasesReader members
    <*> (Key.mk "visaTypes" "visa_types").required
      (Reader.listOf (Reader.code VisaType.ofCode?)) members
    <*> (Key.plain "conditions").required Condition.listReader members
    <*> (Key.mk "taskTemplate" "task_template").required Template.reader members
    <*> (Key.plain "priority").withDefault 50 (Reader.intWithin (some 0) (some 100)) members
    <*> (Key.mk "isActive" "is_active").withDefault true Reader.bool members
    <*> (Key.plain "version").withDefault "1.0.0" Reader.text members
    <*> (Key.mk "createdAt" "created_at").optional Reader.timestamp members
    <*> (Key.mk "updatedAt" "updated_at").optional Reader.timestamp members
    <*> (Key.mk "universitySpecific" "university_specific").optional Reader.text members
    <*> (Key.plain "tags").withDefault [] (Reader.listOf Reader.text) members

def reader : Reader Rule :=
  Reader.record ofMembers

def toValue (rule : Rule) : Value :=
  .map [
    ("id", .text rule.id),
    ("name", .text rule.name),
    ("description", .text rule.description),
    ("ruleGroup", .text rule.group.code),
    ("phase", .list (rule.phases.map .phase)),
    ("visaTypes", .list (rule.visaTypes.map .visa)),
    ("conditions", .list (Condition.toValues rule.conditions)),
    ("taskTemplate", rule.template.toValue),
    ("priority", .int rule.priority),
    ("isActive", .bool rule.isActive),
    ("version", .text rule.version),
    ("createdAt", .ofOption .stamp rule.createdAt),
    ("updatedAt", .ofOption .stamp rule.updatedAt),
    ("universitySpecific", .ofOption .text rule.university),
    ("tags", .list (rule.tags.map .text))]

end Rule

end Obligations
