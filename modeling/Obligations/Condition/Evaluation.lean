import Obligations.Condition.Form
import Obligations.Failure
import Obligations.Pattern.Guard
import Obligations.Pattern.Matching
import Obligations.Pattern.Reader
import Obligations.Value.Comparison

/-! # Evaluating conditions

A condition is evaluated against the record of a subject, at a moment. Evaluation always ends in a
finding: what cannot be compared counts as not met, and the finding says why.
-/

namespace Obligations

open Obligations.Calendar Obligations.Text

/-- The value at the end of a path with dots. -/
def Value.atPath (record : Value) (path : String) : Value :=
  record.follow ((pieces '.' path.toList).map String.ofList)

namespace Comparison

def failAt {α : Type} (comparison : Comparison) (field message : String) : Outcome α :=
  .fail (.of .condition message { field := some field, operator := some comparison.code })

/-- Whether a pattern occurs in a text. Patterns that are too long or may take too long are refused
before they are tried. -/
def searchPattern (field pattern content : String) : Outcome Bool :=
  let refuse := fun {α : Type} (message : String) => Comparison.regex.failAt (α := α) field message
  let chars := pattern.toList
  if Pattern.lengthLimit < chars.length then
    refuse "Regex pattern too long (max 200 characters)"
  else if Pattern.isUnsafe chars then
    refuse "Regex pattern contains potentially dangerous constructs"
  else
    match Pattern.ofText pattern with
    | .ok pattern => .ok (pattern.occursIn content)
    | .error (.malformed kind position) =>
      refuse ("Invalid regex pattern: " ++ Pattern.Fault.message chars (.malformed kind position))
    | .error fault => .mishap (.pattern fault)

/-- Whether a value lies between two bounds, the first of which is looked at first. -/
def isBetween (actual low high : Value) : Outcome Bool := do
  if (← .ofPrinted (actual.order? low)) == .lt then return false
  else return (← .ofPrinted (actual.order? high)) != .gt

def holds (comparison : Comparison) (field : String) (actual operand : Value) : Outcome Bool :=
  match comparison with
  | .equals => .ok (actual.agrees operand)
  | .notEquals => .ok (!actual.agrees operand)
  | .lessThan => (· == .lt) <$> .ofPrinted (actual.order? operand)
  | .lessThanOrEqual => (· != .gt) <$> .ofPrinted (actual.order? operand)
  | .greaterThan => (· == .gt) <$> .ofPrinted (actual.order? operand)
  | .greaterThanOrEqual => (· != .lt) <$> .ofPrinted (actual.order? operand)
  | .contains => .ofPrinted (actual.holds? operand)
  | .notContains => (!·) <$> .ofPrinted (actual.holds? operand)
  | .isIn =>
    match operand with
    | .list items => .ok (items.any (actual.agrees ·))
    | _ => .ok false
  | .notIn =>
    match operand with
    | .list items => .ok (!items.any (actual.agrees ·))
    | _ => .ok false
  | .between =>
    match operand with
    | .list [low, high] => isBetween actual low high
    | _ => failAt .between field "Between operator requires exactly 2 values"
  | .regex => do searchPattern field (← .ofPrinted operand.shown?) (← .ofPrinted actual.shown?)
  | .exists | .notExists =>
    comparison.failAt field ("Unsupported operator: " ++ comparison.code)

end Comparison

namespace Requirement

/-- Whether a date lies as required relative to the moment a given time from now. -/
def holdsInTime (requirement : Requirement) (now : Timestamp) (actual : Value) (time : Offset) :
    Outcome Bool := do
  match actual.toStamp? with
  | none =>
    let written ← .ofPrinted actual.written?
    requirement.comparison.failAt requirement.field
      ("Cannot compare non-date value " ++ written ++ " with a time value")
  | some moment =>
    let span ← .ofCalendar time.toSpan
    let boundary ← .ofCalendar (now.withoutOffset.add span)
    requirement.comparison.holds requirement.field (.stamp moment) (.stamp boundary)

/-- Whether a value is as required. Nothing but its presence is required of a missing value. -/
def holds (requirement : Requirement) (now : Timestamp) (actual : Value) : Outcome Bool :=
  match requirement.comparison, requirement.time with
  | .exists, _ => .ok (!actual.isNull)
  | .notExists, _ => .ok actual.isNull
  | comparison, time =>
    if actual.isNull then .ok false
    else
      match time with
      | some time => requirement.holdsInTime now actual time
      | none => comparison.holds requirement.field actual requirement.operand

/-- The words for the time that is asked for, if it can be printed. -/
def timeText? (requirement : Requirement) : Option String :=
  match requirement.time with
  | some time => time.text?.map fun shown => " (time: " ++ shown ++ ")"
  | none => some ""

/-- The words for a requirement that is not met, if all that they tell can be printed. -/
def unmetText? (requirement : Requirement) (actual : Value) : Option String := do
  let actual ← actual.shown?
  let operand ← requirement.operand.shown?
  let time ← requirement.timeText?
  return "Field '" ++ requirement.field ++ "' (" ++ actual ++ ") " ++ requirement.comparison.code ++
    " " ++ operand ++ time ++ " - condition not met"

/-- Whether a value is as required, and the words for it. -/
def outcome (requirement : Requirement) (now : Timestamp) (actual : Value) : Outcome (Bool × String) := do
  if ← requirement.holds now actual then return (true, "Condition met")
  else return (false, ← .ofPrinted (requirement.unmetText? actual))

end Requirement

/-- What the evaluation of a condition came to. -/
structure Finding where
  condition : Condition
  passed : Bool
  actual : Value
  expected : Value
  reason : String
  /-- The findings on the conditions of a group. -/
  nested : List Finding

namespace Finding

instance : Inhabited Finding := ⟨⟨default, false, .null, .null, "", []⟩⟩

/-- Whether the conditions of a group are met as the group joins them. -/
def groupHolds (connective : Connective) (negated : Bool) (results : List Bool) : Bool :=
  let met := match connective with
    | .all => results.all id
    | .any => results.any id
  met != negated

def ofRequirement (requirement : Requirement) (now : Timestamp) (record : Value) : Finding :=
  let actual := record.atPath requirement.field
  match requirement.outcome now actual with
  | .ok (passed, reason) => ⟨.leaf requirement, passed, actual, requirement.operand, reason, []⟩
  | .error problem =>
    ⟨.leaf requirement, false, .null, requirement.operand,
      "Evaluation error: " ++ problem.message, []⟩

def ofGroup (members : List Condition) (connective : Connective) (negated : Bool)
    (nested : List Finding) : Finding :=
  let passed := groupHolds connective negated (nested.map (·.passed))
  ⟨.group members connective negated, passed, .list (nested.map (·.actual)),
    .list (nested.map (·.expected)),
    if passed then "Nested conditions met"
    else "Nested conditions failed (" ++ connective.code ++ " logic)",
    nested⟩

end Finding

namespace Condition

mutual

/-- The finding on a condition. -/
def evaluate (now : Timestamp) (record : Value) : Condition → Finding
  | .leaf requirement => .ofRequirement requirement now record
  | .group members connective negated =>
    .ofGroup members connective negated (evaluateAll now record members)

/-- The findings on conditions, in their order. -/
def evaluateAll (now : Timestamp) (record : Value) : List Condition → List Finding
  | [] => []
  | condition :: rest => condition.evaluate now record :: evaluateAll now record rest

end

def allHold (now : Timestamp) (record : Value) (conditions : List Condition) : Bool :=
  (evaluateAll now record conditions).all (·.passed)

end Condition

namespace Finding

mutual

def toValue : Finding → Value
  | ⟨condition, passed, actual, expected, reason, nested⟩ =>
    .map [
      ("condition", condition.toValue),
      ("passed", .bool passed),
      ("actualValue", actual),
      ("expectedValue", expected),
      ("reason", .text reason),
      ("nestedResults", .list (toValues nested))]

def toValues : List Finding → List Value
  | [] => []
  | finding :: rest => finding.toValue :: toValues rest

end

end Finding

end Obligations
