import Obligations.Calendar.Iso
import Obligations.Value.Shown

/-! # Values in sentences

How values read in a text for people: dates in words, truth values as yes and no, lengths of time in
the units that people use, and degrees of urgency. What is told of a subject can be printed: a subject
that is read from a document has no whole number with more than `digitLimit` digits in it.
-/

namespace Obligations.Wording

open Obligations.Number Obligations.Text

mutual

/-- A value that can be printed as it reads in a sentence. -/
def phrase : Value → String
  | .null => ""
  | .visa v => v.code
  | .phase p => p.code
  | .bool b => if b then "Yes" else "No"
  | .date d => d.longText
  | .stamp moment => moment.date.longText
  | .list items => joined ", " (phrases items)
  | value => value.shown

/-- The values of a list as they read in a sentence. -/
def phrases : List Value → List String
  | [] => []
  | item :: rest => phrase item :: phrases rest

end

/-- A count of a unit, with an `s` unless there is one of it. -/
def counted (n : Int) (unit : String) : String :=
  intText n ++ " " ++ unit ++ (if n = 1 then "" else "s")

/-- The time that is left, in days, in months of thirty days, or in years and months. -/
def remaining : Option Int → String
  | none => "Unknown"
  | some days =>
    if days < 0 then "Expired"
    else if days = 0 then "Today"
    else if days < 30 then counted days "day"
    else if days < 365 then counted (days / 30) "month"
    else
      let months := days % 365 / 30
      counted (days / 365) "year" ++ (if months = 0 then "" else " " ++ counted months "month")

/-- How urgent a situation is. -/
inductive Urgency where
  | low
  | medium
  | high
  | critical
deriving DecidableEq, Repr

namespace Urgency

def ofRisk (score : Int) : Urgency :=
  if 80 ≤ score then .critical
  else if 60 ≤ score then .high
  else if 30 ≤ score then .medium
  else .low

def word : Urgency → String
  | .low => "low"
  | .medium => "medium"
  | .high => "high"
  | .critical => "critical"

def sign : Urgency → String
  | .low => "🟢"
  | .medium => "🟡"
  | .high => "🟠"
  | .critical => "🔴"

end Urgency

end Obligations.Wording
