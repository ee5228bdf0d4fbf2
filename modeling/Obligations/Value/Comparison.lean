import Obligations.Value.Shown
import Obligations.Text.Case
import Obligations.Text.Blank

/-! # Comparing values

Equality that ignores the case of texts and reads dates in text, a three-way order over dates,
numbers and texts, and containment. Equality never fails. The others have no answer where they need the
text of a value that cannot be printed.
-/

namespace Obligations

open Obligations.Calendar Obligations.Number Obligations.Text

namespace Value

/-- A text in ISO form as a timestamp: a whole timestamp, else the date in its first characters. A
`Z` for universal time may stand for the distance zero. -/
def readStamp? (content : String) : Option Timestamp :=
  let chars := trimChars content.toList
  let spelled := chars.flatMap fun c => if c = 'Z' then "+00:00".toList else [c]
  match Timestamp.ofIso? spelled with
  | some moment => some moment.withoutOffset
  | none => (Date.ofIso? (chars.take 10)).map Timestamp.midnight

/-- The moment that a date, a timestamp or a text stands for, on its own clock. -/
def toStamp? : Value → Option Timestamp
  | .stamp t => some t.withoutOffset
  | .date d => some (Timestamp.midnight d)
  | .text s => readStamp? s
  | .visa v => readStamp? v.code
  | .phase p => readStamp? p.code
  | _ => none

/-- Whether a value is a date or a timestamp. -/
def isTemporal : Value → Bool
  | .date _ | .stamp _ => true
  | _ => false

/-- The place of a number on the line. -/
def place? : Value → Option Place
  | .int n => some (placeOfInt n)
  | .float x => x.place?
  | _ => none

def isNumber : Value → Bool
  | .int _ | .float _ => true
  | _ => false

/-- The place of a number or of a truth value on the line; truth values count as one and zero. -/
def scalarPlace? : Value → Option Place
  | .bool b => some (placeOfInt (if b then 1 else 0))
  | value => value.place?

/-- Whether two values without parts are the same; here case matters in texts. -/
def isSame (left right : Value) : Bool :=
  match left.scalarPlace?, right.scalarPlace? with
  | some a, some b => a == b
  | none, none =>
    match left.asText?, right.asText? with
    | some a, some b => a == b
    | _, _ => left.isNull && right.isNull
  | _, _ => false

/-- The order of two numbers; there is none where one of them is no number. -/
def numberOrder? (left right : Value) : Option Ordering := do
  return (← left.place?).compare (← right.place?)

/-- Whether two moments are known and the same. -/
def sameStamp (left right : Option Timestamp) : Bool :=
  match left, right with
  | some a, some b => a.position == b.position
  | _, _ => false

mutual

/-- Equality of values. Case does not matter in texts; a date equals a text that stands for it; lists
agree member by member and maps key by key. -/
def agrees : Value → Value → Bool
  | .null, right => right.isNull
  | .bool a, .bool b => a == b
  | .bool _, _ => false
  | .int a, right =>
    match right with
    | .int b => a == b
    | .float _ => numberOrder? (.int a) right == some .eq
    | _ => false
  | .float a, right =>
    match right with
    | .int _ | .float _ => numberOrder? (.float a) right == some .eq
    | _ => false
  | .date a, right =>
    match right with
    | .null | .bool _ => false
    | _ => sameStamp (some (Timestamp.midnight a)) right.toStamp?
  | .stamp a, right =>
    match right with
    | .null | .bool _ => false
    | _ => sameStamp (some a.withoutOffset) right.toStamp?
  | .text a, right => textAgrees a right
  | .visa a, right => textAgrees a.code right
  | .phase a, right => textAgrees a.code right
  | .list a, .list b => listAgrees a b
  | .list _, _ => false
  | .map a, .map b =>
    a.all (fun entry => (b.lookup entry.1).isSome) &&
      b.all (fun entry => (a.lookup entry.1).isSome) && membersAgree a b
  | .map _, _ => false

/-- Equality of a text with a value. -/
def textAgrees (content : String) (right : Value) : Bool :=
  match right with
  | .date _ | .stamp _ => sameStamp (readStamp? content) right.toStamp?
  | _ =>
    match right.asText? with
    | some other => caseFold content == caseFold other
    | none => false

/-- Equality of lists, member by member. -/
def listAgrees : List Value → List Value → Bool
  | [], [] => true
  | a :: as, b :: bs => a.agrees b && listAgrees as bs
  | _, _ => false

/-- Whether every member of a map agrees with the member of the same key in another. -/
def membersAgree : List (String × Value) → List (String × Value) → Bool
  | [], _ => true
  | (key, a) :: rest, others =>
    (match others.lookup key with
     | some b => a.agrees b
     | none => false) && membersAgree rest others

end

/-- What is written as a text agrees as this text. -/
theorem agrees_of_asText? {value right : Value} {content : String} (written : value.asText? = some content) :
    value.agrees right = textAgrees content right := by
  cases value with
  | text | visa | phase => cases written; rw [agrees]
  | _ => cases written

/-- The order of two texts without regard to case. -/
def foldedOrder (left right : String) : Ordering :=
  compare (caseFold left) (caseFold right)

/-- The order of two values: of moments if one of them is a date and both stand for one, else of
numbers if both are, else of the texts they are shown as. -/
def order? (left right : Value) : Option Ordering :=
  let moments := do
    guard (left.isTemporal || right.isTemporal)
    return (← left.toStamp?).compare (← right.toStamp?)
  match moments with
  | some result => some result
  | none =>
    if left.isNumber && right.isNumber then some ((numberOrder? left right).getD .eq)
    else do return foldedOrder (← left.shown?) (← right.shown?)

/-- Whether a value holds another: a text in a text without regard to case, a member of a list, or
the value of a key of a map. -/
def holds? (container item : Value) : Option Bool :=
  match container with
  | .list items => some (items.any (·.agrees item))
  | .map members => some (members.any (·.2.agrees item))
  | _ =>
    match container.asText? with
    | some content => item.shown?.map fun part => occursIn (caseFold part).toList (caseFold content).toList
    | none => some false

end Value

end Obligations
