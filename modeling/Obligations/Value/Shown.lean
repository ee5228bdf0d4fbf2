import Obligations.Value.Basic
import Obligations.Calendar.Iso
import Obligations.Text.Quoted

/-! # Values in text

A value is shown in two ways: on its own, where a text stands for itself, and inside a list or a
map, where texts are quoted and dates and codes say what they are. A value with a whole number in it that
has too many digits cannot be printed in either way. Values of documents in JSON have none, and what is
shown of these needs no second look.
-/

namespace Obligations

open Obligations.Calendar Obligations.Number Obligations.Text

/-- A span of time by its days, seconds and microseconds, as far as they are not zero. -/
def spanNotation (micros : Int) : String :=
  let days := micros / (microsPerDay : Int)
  let seconds := micros % (microsPerDay : Int) / (microsPerSecond : Int)
  let rest := micros % (microsPerSecond : Int)
  let parts := [("days", days), ("seconds", seconds), ("microseconds", rest)].filter (·.2 != 0)
  let shown := if parts.isEmpty then "0"
    else joined ", " (parts.map fun (name, n) => name ++ "=" ++ intText n)
  "datetime.timedelta(" ++ shown ++ ")"

/-- The distance of a clock from universal time. -/
def offsetNotation (offset : Int) : String :=
  if offset = 0 then "datetime.timezone.utc"
  else "datetime.timezone(" ++ spanNotation offset ++ ")"

def dateNotation (date : Date) : String :=
  "datetime.date(" ++ joined ", " ([date.year, date.month, date.day].map fun n : Nat => intText n) ++ ")"

/-- A timestamp by its parts; seconds and microseconds are left out where nothing follows them but
zeros. -/
def stampNotation (stamp : Timestamp) : String :=
  let fixed := [stamp.date.year, stamp.date.month, stamp.date.day, stamp.hour, stamp.minute]
  let rest := if stamp.microsecond != 0 then [stamp.second, stamp.microsecond]
    else if stamp.second != 0 then [stamp.second] else []
  let zone := match stamp.offset with
    | some offset => ", tzinfo=" ++ offsetNotation offset
    | none => ""
  "datetime.datetime(" ++ joined ", " ((fixed ++ rest).map fun n : Nat => intText n) ++ zone ++ ")"

namespace Value

def boolText (b : Bool) : String :=
  if b then "True" else "False"

mutual

/-- A value as it stands inside a list or a map. -/
def written : Value → String
  | .null => "None"
  | .bool b => boolText b
  | .int n => intText n
  | .float x => x.valueText
  | .text s => quoted s
  | .date d => dateNotation d
  | .stamp t => stampNotation t
  | .visa v => "<VisaType." ++ v.symbol ++ ": " ++ quoted v.code ++ ">"
  | .phase p => "<VisaPhase." ++ p.symbol ++ ": " ++ quoted p.code ++ ">"
  | .list items => "[" ++ joined ", " (writtenItems items) ++ "]"
  | .map members => "\x7b" ++ joined ", " (writtenMembers members) ++ "\x7d"

/-- The values of a list, each as it stands inside it. -/
def writtenItems : List Value → List String
  | [] => []
  | item :: items => item.written :: writtenItems items

/-- The members of a map, each as it stands inside it. -/
def writtenMembers : List (String × Value) → List String
  | [] => []
  | (key, value) :: rest => (quoted key ++ ": " ++ value.written) :: writtenMembers rest

end

def shown : Value → String
  | .text s => s
  | .date d => d.iso
  | .stamp t => t.text
  | .visa v => "VisaType." ++ v.symbol
  | .phase p => "VisaPhase." ++ p.symbol
  | value => value.written

mutual

/-- Whether a value can be printed: no whole number in it has too many digits. -/
def isPrintable : Value → Bool
  | .int n => Number.isPrintable n
  | .list items => arePrintable items
  | .map members => havePrintable members
  | _ => true

/-- Whether the values of a list can be printed. -/
def arePrintable : List Value → Bool
  | [] => true
  | item :: rest => item.isPrintable && arePrintable rest

/-- Whether the values of members can be printed. -/
def havePrintable : List (String × Value) → Bool
  | [] => true
  | (_, value) :: rest => value.isPrintable && havePrintable rest

end

/-- A value on its own, if it can be printed. -/
def shown? (value : Value) : Option String :=
  if value.isPrintable then some value.shown else none

/-- A value as it stands inside a list or a map, if it can be printed. -/
def written? (value : Value) : Option String :=
  if value.isPrintable then some value.written else none

theorem shown?_of_isPrintable {value : Value} (printable : value.isPrintable = true) :
    value.shown? = some value.shown := by
  rw [shown?, printable, if_pos rfl]

theorem shown?_eq_some {value : Value} {content : String} :
    value.shown? = some content ↔ value.isPrintable = true ∧ value.shown = content := by
  rw [shown?, Option.ite_none_right_eq_some, Option.some.injEq]

end Value

end Obligations
