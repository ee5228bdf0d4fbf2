import Obligations.Calendar.Timestamp
import Obligations.Offset.Grammar
import Obligations.Text.Blank
import Obligations.Text.Case

/-! # Recurring dates

A date recurs by a named cadence, at the beginning of the next period of the calendar, or by an
offset from today.
-/

namespace Obligations

open Obligations.Calendar Obligations.Text

/-- The cadences that have a name. -/
inductive Cadence where
  | monthly
  | quarterly
  | semiAnnually
  | yearly
deriving DecidableEq, Repr

namespace Cadence

def code : Cadence → String
  | .monthly => "monthly"
  | .quarterly => "quarterly"
  | .semiAnnually => "semi-annually"
  | .yearly => "yearly"

def names : List (String × Cadence) :=
  [("monthly", .monthly), ("quarterly", .quarterly), ("semi-annually", .semiAnnually),
   ("yearly", .yearly), ("semi-annual", .semiAnnually), ("semiannual", .semiAnnually),
   ("semiannually", .semiAnnually), ("annual", .yearly), ("annually", .yearly)]

/-- The cadence of a name, whatever its case and the white space around it. Underscores stand for
dashes. -/
def ofName? (name : String) : Option Cadence :=
  let dashed := (lower (trim name)).toList.map fun c => if c == '_' then '-' else c
  names.lookup (String.ofList dashed)

def months : Cadence → Nat
  | .monthly => 1
  | .quarterly => 3
  | .semiAnnually => 6
  | .yearly => 12

/-- The first month of the period that a month belongs to. -/
def firstMonth (cadence : Cadence) (month : Nat) : Nat :=
  (month - 1) / cadence.months * cadence.months + 1

/-- The beginning of the period behind the one that today is in. -/
def next (cadence : Cadence) (today : Date) : Except Fault Date :=
  today.monthStart.addMonths ((cadence.firstMonth today.month : Int) - today.month + cadence.months)

end Cadence

end Obligations
