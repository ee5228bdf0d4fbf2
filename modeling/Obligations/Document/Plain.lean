import Obligations.Calendar.Iso
import Obligations.Value.Basic

/-! # Plain documents

A value as it is written into a document: dates and codes become texts, and a number that no document
can hold becomes null.
-/

namespace Obligations

open Obligations.Calendar

namespace Calendar

/-- The distance of a clock from universal time in documents: a letter where there is none, else hours and
minutes. -/
def zoneChars (offset : Int) : List Char :=
  let seconds := offset.natAbs / microsPerSecond
  if seconds = 0 then ['Z']
  else
    (if offset < 0 then '-' else '+') :: padded 2 (seconds / 3600) ++ ':' :: padded 2 (seconds / 60 % 60)

def Timestamp.plain (stamp : Timestamp) : String :=
  String.ofList (stamp.date.isoChars ++ 'T' :: clockChars stamp.micros ++
    (stamp.offset.map zoneChars).getD [])

end Calendar

namespace Value

mutual

/-- A value as a document, in which dates and codes are texts and no number is infinite. -/
def plain : Value → Value
  | .date day => .text day.iso
  | .stamp moment => .text moment.plain
  | .visa status => .text status.code
  | .phase current => .text current.code
  | .float x => if x.toRat?.isSome then .float x else .null
  | .list items => .list (plainItems items)
  | .map members => .map (plainMembers members)
  | value => value

def plainItems : List Value → List Value
  | [] => []
  | item :: rest => plain item :: plainItems rest

def plainMembers : List (String × Value) → List (String × Value)
  | [] => []
  | (name, value) :: rest => (name, plain value) :: plainMembers rest

end

end Value

end Obligations
