import Obligations.Rule.Basic

/-! # Bundled rules

The words that bundled rules are written in: what they require of the fields of a subject, and when
they were last changed.
-/

namespace Obligations.Bundle

open Obligations.Calendar

def lastChange : Timestamp := .midnight ⟨2024, 6, 1, by decide⟩

def requires (field : String) (comparison : Comparison) (operand : Value := .null)
    (time : Option Offset := none) : Condition :=
  .leaf ⟨field, comparison, operand, time, none⟩

def isGiven (field : String) : Condition :=
  requires field .exists

def isMissing (field : String) : Condition :=
  requires field .notExists

def isFlag (field : String) (flag : Bool) : Condition :=
  requires field .equals (.bool flag)

/-- A field is greater than a number. -/
def exceeds (field : String) (bound : Int) : Condition :=
  requires field .greaterThan (.int bound)

/-- A date is reached in less than a given time. -/
def comesWithin (field : String) (time : Offset) : Condition :=
  requires field .lessThan .null (some time)

end Obligations.Bundle
