import Obligations.Failure
import Obligations.Number.Numeral
import Obligations.Value.Comparison

/-! # Loose values

Conversions of values that people have typed into records. Dates that cannot be read count as
missing and free words for a kind of status as another kind; whole numbers, lists and maps fail where
nothing sensible can be made of a value. Records are documents in JSON, so all whole numbers in them have
few enough digits to be printed.
-/

namespace Obligations

open Obligations.Calendar Obligations.Number Obligations.Text

namespace Value

/-- The date of a date, a timestamp or a text in ISO form; a text may go on behind its date. -/
def looseDate? : Value → Option Date
  | .date d => some d
  | .stamp moment => some moment.date
  | value => value.asText?.bind fun content => Date.ofIso? ((trimChars content.toList).take 10)

/-- The text that a value is shown as, empty for values that count as false. -/
def looseText (value : Value) : String :=
  if value.isTruthy then value.shown else ""

/-- The whole number of a value, a fraction cut off; zero for values that count as false. -/
def looseInt (value : Value) : Outcome Int :=
  if !value.isTruthy then .ok 0
  else
    match value with
    | .int n => .ok n
    | .bool b => .ok (if b then 1 else 0)
    | .float x =>
      match x.truncated? with
      | some n => .ok n
      | none => .mishap (.notFinite (x != .nan))
    | .text content =>
      match readInt content.toList with
      | .ok n => .ok n
      | .error (.tooLong digits) => .mishap (.numeral digits)
      | .error .malformed => .mishap (.notNumeral content)
    | _ => .mishap .unusable

/-- The parts that a value is made of: items of a list, names of a map, characters of a text. -/
def parts? : Value → Option (List Value)
  | .list items => some items
  | .map members => some (members.map fun member => .text member.1)
  | value => value.asText?.map fun content => content.toList.map fun c => .text (String.singleton c)

/-- The list of a value's parts, empty for values that count as false. -/
def looseList (value : Value) : Outcome (List Value) :=
  if !value.isTruthy then .ok []
  else
    match value.parts? with
    | some parts => .ok parts
    | none => .mishap .unusable

def canBeKey : Value → Bool
  | .list _ => false
  | .map _ => false
  | _ => true

/-- The entries with one more; the key that was there first stays. -/
def addEntry (entries : List (Value × Value)) (key value : Value) : List (Value × Value) :=
  if entries.any (·.1.isSame key) then
    entries.map fun entry => if entry.1.isSame key then (entry.1, value) else entry
  else entries ++ [(key, value)]

def entriesOfPairs (entries : List (Value × Value)) : List Value → Outcome (List (Value × Value))
  | [] => .ok entries
  | item :: rest =>
    match item.parts? with
    | some [key, value] =>
      if key.canBeKey then entriesOfPairs (addEntry entries key value) rest else .mishap .unusable
    | some _ => .mishap .unevenPairs
    | none => .mishap .unusable

/-- The entries of a map or of a list of pairs, none for values that count as false. -/
def looseEntries (value : Value) : Outcome (List (Value × Value)) :=
  if !value.isTruthy then .ok []
  else
    match value with
    | .map members => .ok (members.map fun member => (.text member.1, member.2))
    | value =>
      match value.parts? with
      | some parts => entriesOfPairs [] parts
      | none => .mishap .unusable

end Value

/-- The kinds of status by the words that are used for them. -/
def visaWords : List (String × VisaType) :=
  [("F1", .f1), ("F-1", .f1), ("J1", .j1), ("J-1", .j1), ("H1B", .h1b), ("H-1B", .h1b),
   ("OPT", .opt), ("STEM_OPT", .stemOpt), ("STEM OPT", .stemOpt)]

/-- The kind of status that a value names, up to case and white space around it. A missing one is
taken for a student's. -/
def VisaType.ofLoose (value : Value) : VisaType :=
  if value.isTruthy then (visaWords.lookup (upper (trim value.shown))).getD .other else .f1

end Obligations
