import Obligations.Condition.Evaluation

/-! # Choices in texts

The conditions that choose between two texts: a field that is compared with a literal, or one that
counts as true or does not. Conditions that make no sense are false.
-/

namespace Obligations.Wording

open Obligations.Number Obligations.Text

/-- The comparisons of a choice. -/
inductive Relation where
  | atLeast
  | atMost
  | above
  | below
  | same
  | different
deriving DecidableEq, Repr

namespace Relation

/-- The comparisons in the order in which they are looked for. -/
def all : List Relation := [.atLeast, .atMost, .above, .below, .same, .different]

/-- The sign of a comparison. -/
def sign : Relation → String
  | .atLeast => ">="
  | .atMost => "<="
  | .above => ">"
  | .below => "<"
  | .same => "=="
  | .different => "!="

end Relation

/-- The text inside quotes, if a text is in quotes. -/
def unquoted? (chars : List Char) : Option (List Char) :=
  match chars with
  | [] => none
  | first :: rest =>
    if (first == '\'' || first == '"') && rest.getLast? == some first then some rest.dropLast
    else none

def literalWords : List (String × Value) :=
  [("true", .bool true), ("false", .bool false), ("null", .null), ("none", .null)]

/-- The value of a literal: a text in quotes, a word, a number, or else the text as it is. -/
def literal (content : String) : Value :=
  let chars := trimChars content.toList
  let word := String.ofList chars
  match unquoted? chars, literalWords.lookup (lower word), readInt chars, readDecimal? chars with
  | some inside, _, _, _ => .text (String.ofList inside)
  | none, some value, _, _ => value
  | none, none, .ok n, _ => .int n
  | none, none, .error _, some x => .float x
  | none, none, .error _, none => .text word

/-- Whether a value is the one of a literal. Where one of them is a text and the other a number, the
text is read as a literal first. -/
def looselySame (left right : Value) : Bool :=
  match left.asText?, right.asText? with
  | some content, none => if right.isNumber then (literal content).isSame right else false
  | none, some content => if left.isNumber then (literal content).isSame left else false
  | _, _ => left.isSame right

/-- The order of two numbers or of two texts; other values have none. -/
def literalOrder? (left right : Value) : Option Ordering :=
  match left.scalarPlace?, right.scalarPlace? with
  | some a, some b => some (a.compare b)
  | _, _ =>
    match left.asText?, right.asText? with
    | some a, some b => some (compare a b)
    | _, _ => none

namespace Relation

/-- Whether two values stand in a relation. -/
def holds (relation : Relation) (left right : Value) : Bool :=
  match relation with
  | .atLeast => (literalOrder? left right).any (· != .lt)
  | .atMost => (literalOrder? left right).any (· != .gt)
  | .above => literalOrder? left right == some .gt
  | .below => literalOrder? left right == some .lt
  | .same => looselySame left right
  | .different => !looselySame left right

end Relation

/-- The condition of a choice. -/
inductive Test where
  | absent (path : String)
  | present (path : String)
  | related (path : String) (relation : Relation) (operand : Value)

namespace Test

/-- The comparison in a condition, with what stands before and behind its sign. -/
def cut? (chars : List Char) : Option (Relation × List Char × List Char) :=
  Relation.all.findSome? fun relation =>
    (cutAt? relation.sign.toList chars).map fun (left, right) => (relation, left, right)

def ofText (content : String) : Test :=
  match content.toList with
  | '!' :: path => .absent (trim (String.ofList path))
  | chars =>
    match cut? chars with
    | some (relation, left, right) =>
      .related (trim (String.ofList left)) relation (literal (String.ofList right))
    | none => .present content

def holds (values : Value) : Test → Bool
  | .absent path => !(values.atPath path).isTruthy
  | .present path => (values.atPath path).isTruthy
  | .related path relation operand => relation.holds (values.atPath path) operand

end Test

/-- A choice between two texts. -/
structure Choice where
  condition : String
  whenTrue : String
  whenFalse : String
deriving DecidableEq, Repr

namespace Choice

/-- A choice in text: a condition and two texts, with colons between them. -/
def ofText? (chars : List Char) : Option Choice :=
  match (pieces ':' chars).map String.ofList with
  | [condition, whenTrue, whenFalse] => some ⟨condition, whenTrue, whenFalse⟩
  | _ => none

def chosen (choice : Choice) (values : Value) : String :=
  if (Test.ofText (trim choice.condition)).holds values then choice.whenTrue else choice.whenFalse

end Choice

end Obligations.Wording
