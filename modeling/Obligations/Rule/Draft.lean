import Obligations.Failure
import Obligations.Rule.Basic

/-! # Drafts of rules

A rule before it has been checked: it may lack its name or its parts, and among its conditions there
may be something that is none. Rules are the drafts that lack nothing.
-/

namespace Obligations

open Obligations.Calendar

/-- A place for a condition. -/
inductive Slot where
  | condition (content : Condition)
  | unrecognized (content : Value)

namespace Slot

def condition? : Slot → Option Condition
  | .condition content => some content
  | .unrecognized _ => none

end Slot

/-- A rule that may lack parts. -/
structure Draft where
  id : Option String
  name : Option String
  description : String
  group : RuleGroup
  phases : Option (List Phase)
  visaTypes : Option (List VisaType)
  conditions : Option (List Slot)
  template : Option Template
  priority : Int
  isActive : Bool
  version : String
  createdAt : Option Timestamp
  updatedAt : Option Timestamp
  university : Option String
  tags : List String

namespace Rule

/-- A rule as a draft that lacks nothing. -/
def toDraft (rule : Rule) : Draft where
  id := some rule.id
  name := some rule.name
  description := rule.description
  group := rule.group
  phases := some rule.phases
  visaTypes := some rule.visaTypes
  conditions := some (rule.conditions.map .condition)
  template := some rule.template
  priority := rule.priority
  isActive := rule.isActive
  version := rule.version
  createdAt := rule.createdAt
  updatedAt := rule.updatedAt
  university := rule.university
  tags := rule.tags

end Rule

namespace Draft

/-- The rule that a draft is, if it lacks nothing. -/
def toRule? (draft : Draft) : Option Rule := do
  let slots ← draft.conditions
  return {
    id := ← draft.id
    name := ← draft.name
    description := draft.description
    group := draft.group
    phases := ← draft.phases
    visaTypes := ← draft.visaTypes
    conditions := ← slots.mapM Slot.condition?
    template := ← draft.template
    priority := draft.priority
    isActive := draft.isActive
    version := draft.version
    createdAt := draft.createdAt
    updatedAt := draft.updatedAt
    university := draft.university
    tags := draft.tags }

def idText (draft : Draft) : String :=
  draft.id.getD "None"

/-- Whether a draft is for subjects of a kind of status, in a stage, at a university. Parts that are
missing matter only where they are looked at. -/
def applies (draft : Draft) (visa : VisaType) (phase : Phase) (university : Option String) :
    Outcome Bool :=
  if !draft.isActive then .ok false
  else
    match draft.visaTypes, draft.phases with
    | none, _ => .mishap .unusable
    | some visas, phases =>
      if !visas.contains visa then .ok false
      else
        match phases with
        | none => .mishap .unusable
        | some phases =>
          .ok ((phases.contains phase || phases.contains .general) &&
            isInScope draft.university university)

end Draft

/-- One item per key, at the place where the key came first. Of several the one of the highest
priority is kept, and of equal ones the first. -/
def keepHighest {α κ : Type} [DecidableEq κ] (key : α → κ) (priority : α → Int) (items : List α) :
    List α :=
  items.foldl insert []
where
  /-- The items with one more. -/
  insert (kept : List α) (item : α) : List α :=
    match kept with
    | [] => [item]
    | other :: rest =>
      if key other = key item then
        (if priority other < priority item then item else other) :: rest
      else other :: insert rest item

end Obligations
