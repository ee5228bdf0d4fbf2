import Obligations.Calendar.Timestamp
import Obligations.Status

/-! # Values

What a subject's record and a rule's operands are made of: the values of documents, dates and
timestamps, and codes of status. Members of a map keep their order and have one value per key.
-/

namespace Obligations

open Obligations.Calendar Obligations.Number

/-- A value of a record or of a rule. -/
inductive Value where
  | null
  | bool (b : Bool)
  | int (n : Int)
  | float (x : Binary64)
  | text (s : String)
  | date (d : Date)
  | stamp (t : Timestamp)
  | visa (v : VisaType)
  | phase (p : Phase)
  | list (items : List Value)
  | map (members : List (String × Value))

namespace Value

instance : Inhabited Value := ⟨.null⟩

/-- The value that something stands for, null where there is nothing. -/
def ofOption {α : Type} (valueOf : α → Value) (content : Option α) : Value :=
  (content.map valueOf).getD .null

def member? (key : String) (members : List (String × Value)) : Option Value :=
  members.lookup key

/-- The value of a key of a map; other values have no keys. -/
def get? (key : String) : Value → Option Value
  | .map members => member? key members
  | _ => none

/-- The value of a key, null where there is none. -/
def getD (value : Value) (key : String) : Value :=
  (value.get? key).getD .null

/-- The members with one key set: at its place where it was there, else at the end. -/
def setMember (key : String) (value : Value) : List (String × Value) → List (String × Value)
  | [] => [(key, value)]
  | (name, old) :: rest =>
    if name = key then (name, value) :: rest else (name, old) :: setMember key value rest

/-- Members from a list of pairs, of which the last of a key counts and the first gives its place. -/
def membersOf (pairs : List (String × Value)) : List (String × Value) :=
  pairs.foldl (fun members (key, value) => setMember key value members) []

def asText? : Value → Option String
  | .text s => some s
  | .visa v => some v.code
  | .phase p => some p.code
  | _ => none

def isNull : Value → Bool
  | .null => true
  | _ => false

/-- Whether a value counts as true: all values do but null, false, zero and what is empty. -/
def isTruthy : Value → Bool
  | .null => false
  | .bool b => b
  | .int n => n != 0
  | .float x => !x.isZero
  | .text s => !s.isEmpty
  | .list items => !items.isEmpty
  | .map members => !members.isEmpty
  | .date _ | .stamp _ | .visa _ | .phase _ => true

/-- The value unless it counts as false. -/
def truthy? (value : Value) : Option Value :=
  if value.isTruthy then some value else none

/-- Codes of status as texts; other values stay. -/
def decoded : Value → Value
  | .visa v => .text v.code
  | .phase p => .text p.code
  | value => value

/-- The value at the end of a path through maps, null where the path leads nowhere. -/
def follow (value : Value) : List String → Value
  | [] => value.decoded
  | key :: keys =>
    match value.get? key with
    | some .null => .null
    | some next => next.follow keys
    | none => .null

end Value

end Obligations
