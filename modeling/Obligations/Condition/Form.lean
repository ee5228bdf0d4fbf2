import Obligations.Condition.Basic
import Obligations.Schema.Offset

/-! # Conditions in documents

A condition is a record. One with a member `nested` is a group and any other a single comparison;
neither may have members that are not known.
-/

namespace Obligations

open Obligations.Schema

namespace Requirement

def fieldKey : Key := .plain "field"

/-- The member with the code of the comparison. -/
def comparisonKey : Key := .plain "operator"

/-- The member with the operand. -/
def operandKey : Key := .plain "value"

/-- The member with the time. -/
def timeKey : Key := ⟨"timeValue", "time_value"⟩

/-- The member with the hint on joining. -/
def connectiveKey : Key := ⟨"logicOperator", "logic_operator"⟩

def keys : List Key :=
  [fieldKey, comparisonKey, operandKey, timeKey, connectiveKey]

def ofMembers (members : List (String × Value)) : Checked Requirement :=
  Requirement.mk
    <$> fieldKey.required Reader.nonEmptyText members
    <*> comparisonKey.required (Reader.code Comparison.ofCode?) members
    <*> operandKey.withDefault .null Reader.anything members
    <*> timeKey.optional (Reader.offset Offset.durationOfText true) members
    <*> connectiveKey.optional (Reader.code Connective.ofCode?) members

def reader : Reader Requirement :=
  Reader.closedRecord keys ofMembers

def toValue (requirement : Requirement) : Value :=
  .map [
    ("field", .text requirement.field),
    ("operator", .text requirement.comparison.code),
    ("value", requirement.operand),
    ("timeValue", Value.ofOption (.text ·.text) requirement.time),
    ("logicOperator", Value.ofOption (.text ·.code) requirement.connective)]

end Requirement

namespace Value

theorem sizeOf_lt_of_lookup {key : String} {value : Value} :
    ∀ {members : List (String × Value)}, members.lookup key = some value →
      sizeOf value < sizeOf members
  | [], found => by simp at found
  | (name, first) :: rest, found => by
    rw [List.lookup_cons] at found
    split at found
    · cases found
      simp
      omega
    · have smaller := sizeOf_lt_of_lookup found
      simp
      omega

end Value

namespace Condition

/-- The member with the conditions of a group. -/
def membersKey : Key := .plain "nested"

/-- The member with the connective of a group. -/
def connectiveKey : Key := ⟨"logicOperator", "logic_operator"⟩

/-- The member that tells whether a group is negated. -/
def negatedKey : Key := .plain "negate"

def groupKeys : List Key :=
  [membersKey, connectiveKey, negatedKey]

def groupOf (nested : Checked (List Condition)) (members : List (String × Value)) :
    Checked Condition :=
  let parts := Condition.group
    <$> nested
    <*> connectiveKey.withDefault .all (Reader.code Connective.ofCode?) members
    <*> negatedKey.withDefault false Reader.bool members
  match unknownMembers groupKeys members with
  | [] => parts
  | issues => Checked.both (fun result (_ : Unit) => result) parts (.refused issues)

mutual

/-- A condition. Issues tell which form it was read as. -/
def reader (value : Value) : Checked Condition :=
  match value with
  | .map members =>
    match found : members.lookup "nested" with
    | some (.list items) =>
      have _smaller := Value.sizeOf_lt_of_lookup found
      let nested := if items.isEmpty then .refuse .tooFew else readAll 0 items
      (groupOf (nested.under (.member "nested")) members).under (.form "group")
    | some _ =>
      (groupOf (Checked.under (.member "nested") (.refuse .notList)) members).under (.form "group")
    | none => ((Requirement.reader value).map .leaf).under (.form "leaf")
  | _ => ((Requirement.reader value).map .leaf).under (.form "leaf")
termination_by sizeOf value
decreasing_by
  simp_all
  omega

/-- The conditions of a list from a given index on. -/
def readAll (index : Nat) (values : List Value) : Checked (List Condition) :=
  match values with
  | [] => .ok []
  | value :: rest =>
    Checked.both List.cons ((reader value).under (.item index)) (readAll (index + 1) rest)
termination_by sizeOf values

end

def listReader : Reader (List Condition)
  | .list values => readAll 0 values
  | _ => .refuse .notList

mutual

def toValue : Condition → Value
  | .leaf requirement => requirement.toValue
  | .group members connective negated =>
    .map [
      ("nested", .list (toValues members)),
      ("logicOperator", .text connective.code),
      ("negate", .bool negated)]

def toValues : List Condition → List Value
  | [] => []
  | condition :: rest => condition.toValue :: toValues rest

end

end Condition

end Obligations
