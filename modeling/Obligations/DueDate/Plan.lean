import Obligations.Calendar.Iso
import Obligations.Schema.Moment
import Obligations.Schema.Offset

/-! # Plans for due dates

How the due date of an obligation is found: it is given, lies at an offset from a date of the
subject, comes from a named formula, or recurs. A plan may bound the date on both sides.
-/

namespace Obligations

open Obligations.Calendar Obligations.Schema

/-- The ways to a due date. -/
inductive Strategy where
  | fixed
  | relative
  | calculated
  | recurring
deriving DecidableEq, Repr

namespace Strategy

def all : List Strategy := [.fixed, .relative, .calculated, .recurring]

def code : Strategy → String
  | .fixed => "fixed"
  | .relative => "relative"
  | .calculated => "calculated"
  | .recurring => "recurring"

/-- The way with a given code. -/
def ofCode? (code : String) : Option Strategy :=
  all.find? (·.code == code)

end Strategy

structure DuePlan where
  strategy : Strategy
  /-- A date in text, or the path of a date of the subject. -/
  base : Option String := none
  offset : Option Offset := none
  /-- The name of a formula, or how the date recurs. -/
  calculation : Option String := none
  businessDaysOnly : Bool := false
  excludeHolidays : Bool := false
  earliest : Option Date := none
  latest : Option Date := none

namespace DuePlan

def hasRoom (plan : DuePlan) : Bool :=
  match plan.earliest, plan.latest with
  | some earliest, some latest => decide (earliest ≤ latest)
  | _, _ => true

def describe (plan : DuePlan) : String :=
  let word := fun content : Option String => content.getD "None"
  match plan.strategy with
  | .fixed => "fixed: " ++ word plan.base
  | .relative => "relative: " ++ word plan.base ++ " " ++ word (plan.offset.map Offset.text)
  | strategy => strategy.code ++ ": " ++ word plan.calculation

def ofMembers (members : List (String × Value)) : Checked DuePlan :=
  (DuePlan.mk
    <$> (Key.plain "type").required (Reader.code Strategy.ofCode?) members
    <*> (Key.mk "baseDate" "base_date").optional Reader.text members
    <*> (Key.plain "offset").optional (Reader.offset Offset.ofText false) members
    <*> (Key.plain "calculation").optional Reader.text members
    <*> (Key.mk "businessDaysOnly" "business_days_only").withDefault false Reader.bool members
    <*> (Key.mk "excludeHolidays" "exclude_holidays").withDefault false Reader.bool members
    <*> (Key.mk "minDate" "min_date").optional Reader.date members
    <*> (Key.mk "maxDate" "max_date").optional Reader.date members).andThen fun plan =>
      if plan.hasRoom then .ok plan
      else .refuse (.refused "minDate must not be after maxDate")

/-- A plan whose bounds leave room for a date. -/
def reader : Reader DuePlan :=
  Reader.record ofMembers

def toValue (plan : DuePlan) : Value :=
  .map [
    ("type", .text plan.strategy.code),
    ("baseDate", .ofOption .text plan.base),
    ("offset", .ofOption (.text ·.text) plan.offset),
    ("calculation", .ofOption .text plan.calculation),
    ("businessDaysOnly", .bool plan.businessDaysOnly),
    ("excludeHolidays", .bool plan.excludeHolidays),
    ("minDate", .ofOption .date plan.earliest),
    ("maxDate", .ofOption .date plan.latest)]

end DuePlan

end Obligations
