import Obligations.Text.Search

/-! # Texts with placeholders

A text is plain characters and placeholders in braces. A placeholder reaches from an opening brace to
the next closing one and is not empty; a brace that starts no placeholder stands for itself.
-/

namespace Obligations.Wording

/-- A part of a text. -/
inductive Segment where
  | plain (c : Char)
  | placeholder (inside : List Char)
deriving DecidableEq, Repr

namespace Segment

/-- The characters of a part. -/
def chars : Segment → List Char
  | .plain c => [c]
  | .placeholder inside => '\x7b' :: inside ++ ['\x7d']

/-- What stands between the braces of a placeholder. -/
def inside? : Segment → Option (List Char)
  | .plain _ => none
  | .placeholder inside => some inside

end Segment

/-- Whether a character does not close a placeholder. -/
def isInside (c : Char) : Bool :=
  c != '\x7d'

/-- The inside of a placeholder whose opening brace has been read, and what is behind it. -/
def takeInside? (chars : List Char) : Option (List Char × List Char) :=
  match chars.takeWhile isInside, chars.dropWhile isInside with
  | first :: inside, _ :: rest => some (first :: inside, rest)
  | _, _ => none

theorem length_of_takeInside? {chars inside rest : List Char}
    (taken : takeInside? chars = some (inside, rest)) : rest.length < chars.length := by
  unfold takeInside? at taken
  split at taken
  next first front last tail kept dropped =>
    cases taken
    have whole := congrArg List.length (List.takeWhile_append_dropWhile (p := isInside) (l := chars))
    rw [kept, dropped, List.length_append] at whole
    simp at whole
    omega
  next => contradiction

/-- The parts of a text. -/
def segments (chars : List Char) : List Segment :=
  match chars with
  | [] => []
  | c :: rest =>
    if c = '\x7b' then
      match taken : takeInside? rest with
      | some (inside, after) =>
        have _shorter := length_of_takeInside? taken
        .placeholder inside :: segments after
      | none => .plain c :: segments rest
    else .plain c :: segments rest
termination_by chars.length
decreasing_by all_goals simp_all; try omega

/-- The insides of the placeholders of a text, in their order. -/
def placeholders (content : String) : List String :=
  (segments content.toList).filterMap fun segment => segment.inside?.map String.ofList

/-- What a placeholder asks for: a choice between two texts, a calculated value, or a field. -/
inductive Request where
  | choice (expression : List Char)
  | calculated (name : List Char)
  | field (path : List Char)
deriving DecidableEq, Repr

/-- What a placeholder asks for. The sign of a kind has to be followed by something. -/
def Request.ofInside : List Char → Request
  | '?' :: c :: rest => .choice (c :: rest)
  | '#' :: c :: rest => .calculated (c :: rest)
  | inside => .field inside

end Obligations.Wording
