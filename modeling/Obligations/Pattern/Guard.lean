import Obligations.Text.Blank

/-! # A guard against slow patterns

Patterns that may take very long on some texts are not tried at all: those that are too long, and
those in which a repetition stands next to another or a parenthesis with a repetition in it is
repeated. The guard looks at the characters alone; it knows no escapes and no nested parentheses.
-/

namespace Obligations.Pattern

open Obligations.Text

def lengthLimit : Nat := 200

/-- Whether a character repeats what stands before it without bound. -/
def isRepetition (c : Char) : Bool :=
  c == '+' || c == '*'

/-- Whether a repetition is the first thing behind white space. -/
def startsWithRepetition (chars : List Char) : Bool :=
  match trimLeft chars with
  | c :: _ => isRepetition c
  | [] => false

/-- Whether a parenthesis whose inside comes next holds a repetition and is repeated. It ends at the
first closing one. -/
def isRepeatedGroup (inside : List Char) : Bool :=
  match inside.span (· != ')') with
  | (body, _ :: tail) => body.any isRepetition && startsWithRepetition tail
  | (_, []) => false

/-- Whether a dangerous construct is at the start of a text. -/
def startsUnsafe : List Char → Bool
  | '(' :: inside => isRepeatedGroup inside
  | '.' :: '*' :: '+' :: _ => true
  | '+' :: '+' :: _ => true
  | '*' :: '*' :: _ => true
  | _ => false

/-- Whether a dangerous construct is anywhere in a text. -/
def isUnsafe : List Char → Bool
  | [] => false
  | c :: rest => startsUnsafe (c :: rest) || isUnsafe rest

end Obligations.Pattern
