/-! # Searching and cutting texts

Operations on the characters of a text: where a part occurs, what stands before and after it, and
the pieces between separators.
-/

namespace Obligations.Text

/-- What is left of `chars` once `part` is taken off its start. -/
def stripStart? (part chars : List Char) : Option (List Char) :=
  match part, chars with
  | [], rest => some rest
  | _ :: _, [] => none
  | p :: part, c :: chars => if p = c then stripStart? part chars else none

/-- The characters before and after the first occurrence of `part`. -/
def cutAt? (part : List Char) : List Char → Option (List Char × List Char)
  | [] => if part.isEmpty then some ([], []) else none
  | c :: chars =>
    match stripStart? part (c :: chars) with
    | some rest => some ([], rest)
    | none => (cutAt? part chars).map fun (before, after) => (c :: before, after)

/-- Whether `part` occurs in `chars`. -/
def occursIn (part chars : List Char) : Bool :=
  (cutAt? part chars).isSome

/-- The pieces of a text between the occurrences of one character; there is at least one piece. -/
def pieces (separator : Char) : List Char → List (List Char)
  | [] => [[]]
  | c :: chars =>
    match pieces separator chars with
    | [] => [[c]]
    | piece :: rest => if c = separator then [] :: piece :: rest else (c :: piece) :: rest

def joined (separator : String) (texts : List String) : String :=
  String.intercalate separator texts

theorem stripStart?_eq_some_iff {part chars rest : List Char} :
    stripStart? part chars = some rest ↔ chars = part ++ rest := by
  induction part generalizing chars with
  | nil => simp [stripStart?, eq_comm]
  | cons p part ih =>
    cases chars with
    | nil => simp [stripStart?]
    | cons c chars =>
      by_cases same : p = c
      · simp [stripStart?, same, ih]
      · simp [stripStart?, same, Ne.symm same]

/-- A part that stands at the start of a text is cut off there. -/
theorem cutAt?_of_strip_eq_some {part chars rest : List Char} (strip : stripStart? part chars = some rest) :
    cutAt? part chars = some ([], rest) := by
  cases chars with
  | nil =>
    cases part with
    | nil => cases strip; rfl
    | cons p part => cases strip
  | cons c chars => rw [cutAt?, strip]

/-- A part that does not stand at the start of a text is looked for behind the first character. -/
theorem cutAt?_cons_of_strip_eq_none {part chars : List Char} {c : Char}
    (strip : stripStart? part (c :: chars) = none) :
    cutAt? part (c :: chars) = (cutAt? part chars).map fun (before, after) => (c :: before, after) := by
  rw [cutAt?, strip]

theorem pieces_ne_nil (separator : Char) (chars : List Char) : pieces separator chars ≠ [] := by
  cases chars with
  | nil => simp [pieces]
  | cons c chars =>
    simp only [pieces]
    split
    · simp
    · split <;> simp

end Obligations.Text
