import Obligations.Offset.Basic
import Obligations.Value.Shown

/-! # Conditions

What a rule asks of a subject: comparisons of one field, and groups of conditions that are joined by
`and` or by `or` and may be negated as a whole.
-/

namespace Obligations

open Obligations.Text

/-- How a field is compared. -/
inductive Comparison where
  | equals
  | notEquals
  | lessThan
  | lessThanOrEqual
  | greaterThan
  | greaterThanOrEqual
  | contains
  | notContains
  | isIn
  | notIn
  | exists
  | notExists
  | between
  | regex
deriving DecidableEq, Repr

namespace Comparison

def all : List Comparison :=
  [.equals, .notEquals, .lessThan, .lessThanOrEqual, .greaterThan, .greaterThanOrEqual, .contains,
   .notContains, .isIn, .notIn, .exists, .notExists, .between, .regex]

def code : Comparison → String
  | .equals => "equals"
  | .notEquals => "notEquals"
  | .lessThan => "lessThan"
  | .lessThanOrEqual => "lessThanOrEqual"
  | .greaterThan => "greaterThan"
  | .greaterThanOrEqual => "greaterThanOrEqual"
  | .contains => "contains"
  | .notContains => "notContains"
  | .isIn => "in"
  | .notIn => "notIn"
  | .exists => "exists"
  | .notExists => "notExists"
  | .between => "between"
  | .regex => "regex"

/-- The comparison with a given code. -/
def ofCode? (code : String) : Option Comparison :=
  all.find? (·.code == code)

end Comparison

/-- How conditions are joined. -/
inductive Connective where
  | all
  | any
deriving DecidableEq, Repr

namespace Connective

def code : Connective → String
  | .all => "AND"
  | .any => "OR"

/-- The connective with a given code. -/
def ofCode? (code : String) : Option Connective :=
  [Connective.all, .any].find? (·.code == code)

end Connective

/-- A comparison of one field with an operand. Where there is a time, the field is compared with the
moment that far from now instead. -/
structure Requirement where
  field : String
  comparison : Comparison
  operand : Value
  time : Option Offset
  /-- A hint of documents on how the condition is joined with others, which has no effect. -/
  connective : Option Connective

inductive Condition where
  | leaf (requirement : Requirement)
  | group (members : List Condition) (connective : Connective) (negated : Bool)

namespace Requirement

/-- The requirement in words, if its operand can be printed. -/
def describe? (requirement : Requirement) : Option String :=
  requirement.operand.shown?.map fun operand =>
    requirement.field ++ " " ++ requirement.comparison.code ++ " " ++ operand

end Requirement

namespace Condition

instance : Inhabited Condition := ⟨.group [] .all false⟩

mutual

/-- The condition in words, if all operands in it can be printed. -/
def describe? : Condition → Option String
  | .leaf requirement => requirement.describe?
  | .group members connective negated => do
    let inner := "(" ++ joined (" " ++ connective.code ++ " ") (← describeAll? members) ++ ")"
    return if negated then "NOT " ++ inner else inner

/-- Conditions in words, if all operands in them can be printed. -/
def describeAll? : List Condition → Option (List String)
  | [] => some []
  | condition :: rest => do return (← condition.describe?) :: (← describeAll? rest)

end

end Condition

end Obligations
