import Mathlib.Data.List.TakeWhile
import Obligations.Text.Blank
import Obligations.Text.Search

/-! # Cutting texts

What is taken off the ends of a text, and where a text is cut at a part or at a character. A character that does not
belong to a part keeps what stands before it and what stands behind it apart: a part that occurs in the whole occurs
on one of the two sides.
-/

namespace Obligations.Text

section Deciding

variable (property : Char → Prop) [DecidablePred property]

/-- What holds of each character of a text is decided along the text. There are other ways to decide it, as there are
only so many characters, but they are hopeless. -/
instance (priority := high) decidableForallMem (chars : List Char) : Decidable (∀ c ∈ chars, property c) :=
  List.decidableBAll property chars

instance (priority := high) decidableForallMemOption (char : Option Char) : Decidable (∀ c ∈ char, property c) :=
  Option.decidableForallMem char

end Deciding

section Trimming

variable {before after : String} {chars gap : List Char}

/-- Whether a text has nothing but white space. -/
def IsBlank (content : String) : Prop :=
  ∀ c ∈ content.toList, isBlank c = true

instance (content : String) : Decidable (IsBlank content) :=
  inferInstanceAs (Decidable (∀ c ∈ content.toList, isBlank c = true))

/-- Nothing is taken off the start of a text if no white space stands there. -/
theorem trimLeft_of_head? (begins : ∀ c ∈ chars.head?, isBlank c = false) : trimLeft chars = chars := by
  cases chars with
  | nil => rfl
  | cons c rest => exact trimLeft_cons_of_not_blank (begins c rfl) rest

theorem trimRight_eq (chars : List Char) : trimRight chars = (trimLeft chars.reverse).reverse := rfl

/-- Nothing is taken off the end of a text if no white space stands there. -/
theorem trimRight_of_getLast? (ends : ∀ c ∈ chars.getLast?, isBlank c = false) : trimRight chars = chars := by
  rw [trimRight_eq, trimLeft_of_head? (List.head?_reverse ▸ ends), List.reverse_reverse]

theorem trimLeft_blank_append (blank : ∀ c ∈ gap, isBlank c = true) (chars : List Char) :
    trimLeft (gap ++ chars) = trimLeft chars := by
  rw [trimLeft, List.dropWhile_append_of_pos blank, ← trimLeft]

theorem trimRight_append_blank (blank : ∀ c ∈ gap, isBlank c = true) (chars : List Char) :
    trimRight (chars ++ gap) = trimRight chars := by
  have backwards : ∀ c ∈ gap.reverse, isBlank c = true := fun c listed => blank c (List.mem_reverse.mp listed)
  rw [trimRight_eq, List.reverse_append, trimLeft_blank_append backwards, ← trimRight_eq]

/-- White space before a text is taken off. -/
theorem trimChars_blank_append (blank : ∀ c ∈ gap, isBlank c = true) (chars : List Char) :
    trimChars (gap ++ chars) = trimChars chars := by
  rw [trimChars, trimChars, trimLeft_blank_append blank]

/-- Nothing is taken off a text that has no white space at its ends. -/
theorem trimChars_of_ends (begins : ∀ c ∈ chars.head?, isBlank c = false)
    (ends : ∀ c ∈ chars.getLast?, isBlank c = false) : trimChars chars = chars := by
  rw [trimChars, trimLeft_of_head? begins, trimRight_of_getLast? ends]

/-- What is taken off a text does not reach beyond a character that is no white space. -/
theorem exists_trimChars_append {c : Char} (begins : ∀ first ∈ chars.head?, isBlank first = false)
    (solid : isBlank c = false) (rest : List Char) :
    ∃ kept, trimChars (chars ++ c :: rest) = chars ++ c :: kept := by
  have left : trimLeft (chars ++ c :: rest) = chars ++ c :: rest := by
    cases chars with
    | nil => exact trimLeft_cons_of_not_blank solid rest
    | cons first others => exact trimLeft_cons_of_not_blank (begins first rfl) _
  have stops : (c :: chars.reverse).dropWhile Text.isBlank = c :: chars.reverse :=
    trimLeft_cons_of_not_blank solid chars.reverse
  refine ⟨trimRight rest, ?_⟩
  rw [trimChars, left, trimRight, trimRight, List.reverse_append, List.reverse_cons, List.append_assoc,
    List.singleton_append, List.dropWhile_append, stops]
  split
  next empty => simp [List.isEmpty_iff.mp empty]
  next => simp

/-- White space around a text that has none is taken off. -/
theorem trimChars_around (front : IsBlank before) (back : IsBlank after) (some : chars ≠ [])
    (solid : ∀ c ∈ chars, isBlank c = false) :
    trimChars (before ++ String.ofList chars ++ after).toList = chars := by
  have left : trimLeft (chars ++ after.toList) = chars ++ after.toList := by
    obtain ⟨c, rest, rfl⟩ := List.exists_cons_of_ne_nil some
    exact trimLeft_cons_of_not_blank (solid c List.mem_cons_self) _
  have right : trimRight (chars ++ after.toList) = chars := by
    rw [trimRight_append_blank back, trimRight_of_getLast? fun c last => solid c (List.mem_of_mem_getLast? last)]
  rw [String.toList_append, String.toList_append, String.toList_ofList, List.append_assoc,
    trimChars_blank_append front, trimChars, left, right]

end Trimming

section Searching

variable {part chars front : List Char} {c p : Char}

theorem stripStart?_append_cons (absent : c ∉ part) (front back : List Char) :
    stripStart? part (front ++ c :: back) = (stripStart? part front).map (· ++ c :: back) := by
  induction part generalizing front with
  | nil => rfl
  | cons p part ih =>
    obtain ⟨other, absent⟩ := not_or.mp (mt List.mem_cons.mpr absent)
    cases front with
    | nil => simp [stripStart?, Ne.symm other]
    | cons d front =>
      rw [List.cons_append, stripStart?, stripStart?, ih absent]
      split <;> rfl

/-- Where a character stands that does not belong to a part, the part is looked for before it and then behind it. -/
theorem cutAt?_append_cons (some : part ≠ []) (absent : c ∉ part) (front back : List Char) :
    cutAt? part (front ++ c :: back) =
      ((cutAt? part front).map fun (before, after) => (before, after ++ c :: back)).or
        ((cutAt? part back).map fun (before, after) => (front ++ c :: before, after)) := by
  induction front with
  | nil =>
    have none : stripStart? part [] = none := by
      obtain ⟨p, others, rfl⟩ := List.exists_cons_of_ne_nil some
      rfl
    have strip := stripStart?_append_cons absent [] back
    rw [List.nil_append, none, Option.map_none] at strip
    rw [List.nil_append, cutAt?_cons_of_strip_eq_none strip, cutAt?, if_neg (by simpa using some)]
    rfl
  | cons d front ih =>
    have strip := stripStart?_append_cons absent (d :: front) back
    rw [List.cons_append] at strip
    cases start : stripStart? part (d :: front) with
    | some rest =>
      rw [start] at strip
      rw [List.cons_append, cutAt?_of_strip_eq_some strip, cutAt?_of_strip_eq_some start]
      rfl
    | none =>
      rw [start] at strip
      rw [List.cons_append, cutAt?_cons_of_strip_eq_none strip, cutAt?_cons_of_strip_eq_none start, ih]
      cases cutAt? part front with
      | some cut => rfl
      | none => simp [Function.comp_def]

/-- A part is looked for behind characters that it does not begin with. -/
theorem cutAt?_append_of_notMem (absent : p ∉ front) (part back : List Char) :
    cutAt? (p :: part) (front ++ back) =
      (cutAt? (p :: part) back).map fun (before, after) => (front ++ before, after) := by
  induction front with
  | nil => simp
  | cons d front ih =>
    obtain ⟨other, absent⟩ := not_or.mp (mt List.mem_cons.mpr absent)
    have strip : stripStart? (p :: part) (d :: (front ++ back)) = none := if_neg other
    rw [List.cons_append, cutAt?_cons_of_strip_eq_none strip, ih absent, Option.map_map]
    rfl

theorem cutAt?_self_append (part rest : List Char) : cutAt? part (part ++ rest) = some ([], rest) :=
  cutAt?_of_strip_eq_some (stripStart?_eq_some_iff.mpr rfl)

/-- A text is not cut exactly if the part does not occur in it. -/
theorem cutAt?_eq_none_iff (some : part ≠ []) : cutAt? part chars = none ↔ ¬ part <:+: chars := by
  induction chars with
  | nil => simp [cutAt?, some]
  | cons d rest ih =>
    have strip : stripStart? part (d :: rest) = none ↔ ¬ part <+: d :: rest := by
      simp [Option.eq_none_iff_forall_ne_some, stripStart?_eq_some_iff, List.prefix_iff_exists_eq_append]
    rw [List.infix_cons_iff, not_or, ← ih, ← strip]
    cases start : stripStart? part (d :: rest) with
    | some left => simp [cutAt?_of_strip_eq_some start]
    | none => simp [cutAt?_cons_of_strip_eq_none start]

/-- A text without a separator is in one piece. -/
theorem pieces_of_notMem (absent : c ∉ chars) : pieces c chars = [chars] := by
  induction chars with
  | nil => rfl
  | cons d rest ih =>
    obtain ⟨other, absent⟩ := not_or.mp (mt List.mem_cons.mpr absent)
    rw [pieces, ih absent]
    exact if_neg (Ne.symm other)

/-- The last piece of a text goes on with the first one of what stands behind it. -/
theorem pieces_append (c : Char) (front back : List Char) : ∃ before last first behind,
    pieces c front = before ++ [last] ∧ pieces c back = first :: behind ∧
      pieces c (front ++ back) = before ++ (last ++ first) :: behind := by
  obtain ⟨first, behind, same⟩ := List.exists_cons_of_ne_nil (pieces_ne_nil c back)
  induction front with
  | nil => exact ⟨[], [], first, behind, rfl, same, same⟩
  | cons d rest ih =>
    obtain ⟨before, last, first, behind, own, others, all⟩ := ih
    rw [List.cons_append, pieces, pieces, own, all]
    -- a separator ends a piece, and any other character goes before the first one
    cases before with
    | nil =>
      by_cases separator : d = c
      · exact ⟨[[]], last, first, behind, by simp [separator], others, by simp [separator]⟩
      · exact ⟨[], d :: last, first, behind, by simp [separator], others, by simp [separator]⟩
    | cons piece before =>
      by_cases separator : d = c
      · exact ⟨[] :: piece :: before, last, first, behind, by simp [separator], others, by simp [separator]⟩
      · exact ⟨(d :: piece) :: before, last, first, behind, by simp [separator], others, by simp [separator]⟩

theorem pieces_append_cons (absent : c ∉ front) (back : List Char) :
    pieces c (front ++ c :: back) = front :: pieces c back := by
  induction front with
  | nil =>
    rw [List.nil_append, pieces]
    split
    next empty => exact absurd empty (pieces_ne_nil c back)
    next some => rw [if_pos rfl, some]
  | cons d rest ih =>
    obtain ⟨other, absent⟩ := not_or.mp (mt List.mem_cons.mpr absent)
    rw [List.cons_append, pieces, ih absent]
    exact if_neg (Ne.symm other)

end Searching

end Obligations.Text
