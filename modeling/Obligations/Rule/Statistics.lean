import Obligations.Rule.Draft

/-! # Statistics of rules

How many rules there are of each kind, and their mean priority. Kinds stand in the order in which they
come first.
-/

namespace Obligations

open Obligations.Number

/-- Counts by name, in the order in which the names came first. -/
abbrev Counts := List (String × Nat)

namespace Counts

/-- The counts with one more of a name. -/
def add (counts : Counts) (name : String) : Counts :=
  match counts with
  | [] => [(name, 1)]
  | (other, n) :: rest => if other = name then (other, n + 1) :: rest else (other, n) :: add rest name

def ofNames (names : List String) : Counts :=
  names.foldl add []

def toValue (counts : Counts) : Value :=
  .map (counts.map fun (name, n) => (name, .int n))

end Counts

/-- The names that a draft is counted under. -/
structure Profile where
  visaTypes : List String
  phases : List String
  strategy : String
  dependsOn : List String

namespace Draft

/-- The names that a draft is counted under; its parts have to be there. -/
def profile (draft : Draft) : Outcome Profile :=
  match draft.visaTypes, draft.phases, draft.template with
  | some visas, some phases, some template =>
    .ok ⟨visas.map (·.code), phases.map (·.code),
      (template.due.map (·.strategy.code)).getD "none", template.dependsOn⟩
  | some _, some _, none => .mishap .notRecord
  | _, _, _ => .mishap .unusable

end Draft

/-- The mean of whole numbers, to one decimal place; zero where there are none. -/
def meanTenths (numbers : List Int) : Binary64 :=
  ((Binary64.ofQuotient? (numbers.foldl (· + ·) 0) numbers.length).map Binary64.tenths).getD (.finite false 0)

structure Statistics where
  total : Nat
  active : Nat
  byGroup : Counts
  byVisaType : Counts
  byPhase : Counts
  byStrategy : Counts
  withPrerequisites : Nat
  meanPriority : Binary64

namespace Statistics

def ofDrafts (drafts : List Draft) : Outcome Statistics := do
  let profiles ← drafts.mapM (·.profile)
  return {
    total := drafts.length
    active := (drafts.filter (·.isActive)).length
    byGroup := .ofNames (drafts.map (·.group.code))
    byVisaType := .ofNames (profiles.flatMap (·.visaTypes))
    byPhase := .ofNames (profiles.flatMap (·.phases))
    byStrategy := .ofNames (profiles.map (·.strategy))
    withPrerequisites := (profiles.filter (!·.dependsOn.isEmpty)).length
    meanPriority := meanTenths (drafts.map (·.priority)) }

def toValue (statistics : Statistics) : Value :=
  .map [
    ("total_rules", .int statistics.total),
    ("active_rules", .int statistics.active),
    ("by_group", statistics.byGroup.toValue),
    ("by_visa_type", statistics.byVisaType.toValue),
    ("by_phase", statistics.byPhase.toValue),
    ("by_date_type", statistics.byStrategy.toValue),
    ("with_dependencies", .int statistics.withPrerequisites),
    ("average_priority", .float statistics.meanPriority)]

end Statistics

end Obligations
