import Mathlib.Algebra.Group.Nat.Defs
import Obligations.Calendar.Iso
import Obligations.Text.Digit

/-! # Printed digits

What is read of the digits of a number is that number, also behind zeros that fill them up to a width.
-/

namespace Obligations

open Obligations.Calendar Obligations.Number Obligations.Text

namespace Number

theorem isDigit_digitsOf {n : Nat} {c : Char} (member : c ∈ digitsOf n) : c.isDigit = true :=
  Nat.isDigit_of_mem_toDigits (by decide) (by decide) member

theorem ofDigitChars_digitsOf (n : Nat) : Nat.ofDigitChars 10 (digitsOf n) 0 = n :=
  Nat.ofDigitChars_toDigits (by decide) (by decide)

theorem digitsOf_ne_nil (n : Nat) : digitsOf n ≠ [] :=
  Nat.toDigits_ne_nil

end Number

namespace Text

theorem toNat_bounds_of_isDigit {c : Char} (digit : c.isDigit = true) : 48 ≤ c.toNat ∧ c.toNat ≤ 57 := by
  rw [Char.isDigit, Bool.and_eq_true, decide_eq_true_eq, decide_eq_true_eq] at digit
  exact ⟨UInt32.le_iff_toNat_le.mp digit.1, UInt32.le_iff_toNat_le.mp digit.2⟩

theorem isDecimalDigit_of_isDigit {c : Char} (digit : c.isDigit = true) : isDecimalDigit c = true := by
  rw [isDecimalDigit, digitValue?, if_pos digit]
  rfl

/-- Plain digits denote the number that they are the digits of. -/
theorem digitsValue?_of_isDigit {digits : List Char} (plain : ∀ c ∈ digits, c.isDigit = true) :
    digitsValue? digits = some (Nat.ofDigitChars 10 digits 0) := by
  rw [digitsValue?]
  generalize 0 = start
  induction digits generalizing start with
  | nil => rfl
  | cons c rest ih =>
    rw [List.forall_mem_cons] at plain
    rw [List.foldlM_cons, digitValue?, if_pos plain.1, Nat.ofDigitChars_cons]
    exact ih plain.2 _

theorem digitValue?_lt {c : Char} {value : Nat} (digit : digitValue? c = some value) : value < 10 := by
  rw [digitValue?] at digit
  split at digit
  next plain =>
    cases digit
    have bounds := toNat_bounds_of_isDigit plain
    omega
  next =>
    obtain ⟨start, found, rfl⟩ := Option.map_eq_some_iff.mp digit
    have within := List.find?_some found
    simp only [Bool.and_eq_true, decide_eq_true_eq] at within
    omega

theorem digitsValue?_lt {digits : List Char} {n : Nat} (denoted : digitsValue? digits = some n) :
    n < 10 ^ digits.length := by
  -- for any number that the digits before them denote, as the fold goes on from it
  have bound : ∀ start, digits.foldlM (fun value c => (digitValue? c).map (10 * value + ·)) start = some n →
      n < (start + 1) * 10 ^ digits.length := by
    clear denoted
    induction digits with
    | nil =>
      rintro start ⟨⟩
      simp
    | cons c rest ih =>
      intro start denoted
      rw [List.foldlM_cons] at denoted
      obtain ⟨_, first, denoted⟩ := Option.bind_eq_some_iff.mp denoted
      obtain ⟨digit, found, rfl⟩ := Option.map_eq_some_iff.mp first
      calc n < (10 * start + digit + 1) * 10 ^ rest.length := ih _ denoted
        _ ≤ (start + 1) * 10 * 10 ^ rest.length := by
          have small := digitValue?_lt found
          exact Nat.mul_le_mul_right _ (by omega)
        _ = (start + 1) * 10 ^ (c :: rest).length := by
          rw [List.length_cons, Nat.pow_succ, Nat.mul_assoc, Nat.mul_comm 10]
  simpa using bound 0 denoted

/-- A number has no more digits than have been read of it. -/
theorem length_digitsOf_le {digits : List Char} {n : Nat} (denoted : digitsValue? digits = some n)
    (some : digits ≠ []) : (digitsOf n).length ≤ digits.length :=
  (Nat.length_toDigits_le_iff (by decide) (List.length_pos_iff.mpr some)).mpr (digitsValue?_lt denoted)

theorem digitsValue?_digitsOf (n : Nat) : digitsValue? (digitsOf n) = some n := by
  rw [digitsValue?_of_isDigit fun c => isDigit_digitsOf, ofDigitChars_digitsOf]

end Text

namespace Calendar

variable {width n : Nat}

theorem isDigit_padded {c : Char} (member : c ∈ padded width n) : c.isDigit = true := by
  rcases List.mem_append.mp member with zero | digit
  · rw [List.eq_of_mem_replicate zero]
    rfl
  · exact isDigit_digitsOf digit

theorem length_padded (fits : n < 10 ^ width) (wide : 0 < width) : (padded width n).length = width := by
  have short : (digitsOf n).length ≤ width := (Nat.length_toDigits_le_iff (by decide) wide).mpr fits
  rw [padded, List.length_append, List.length_replicate]
  omega

theorem ofDigitChars_padded (width n : Nat) : Nat.ofDigitChars 10 (padded width n) 0 = n := by
  rw [padded, Nat.ofDigitChars_append, Nat.ofDigitChars_replicate_zero, Nat.mul_zero, ofDigitChars_digitsOf]

/-- As many digits are read as a number has. -/
theorem takeNumber?_append {digits : List Char} (plain : ∀ c ∈ digits, c.isDigit = true) (rest : List Char) :
    takeNumber? digits.length (digits ++ rest) = some (Nat.ofDigitChars 10 digits 0, rest) := by
  induction digits with
  | nil => rfl
  | cons c others ih =>
    rw [List.forall_mem_cons] at plain
    have first : asciiDigit? c = some (c.toNat - '0'.toNat) := if_pos plain.1
    have whole : Nat.ofDigitChars 10 (c :: others) 0 =
        (c.toNat - '0'.toNat) * 10 ^ others.length + Nat.ofDigitChars 10 others 0 := by
      rw [Nat.ofDigitChars_cons, Nat.mul_zero, Nat.zero_add, Nat.ofDigitChars_eq_ofDigitChars_zero, Nat.mul_comm]
    rw [List.length_cons, List.cons_append, takeNumber?, first, ih plain.2, whole]
    rfl

/-- A number that has been filled up to a width is read over that width. -/
theorem takeNumber?_padded (fits : n < 10 ^ width) (wide : 0 < width) (rest : List Char) :
    takeNumber? width (padded width n ++ rest) = some (n, rest) := by
  have plain : ∀ c ∈ padded width n, c.isDigit = true := fun c => isDigit_padded
  have taken := takeNumber?_append plain rest
  rwa [length_padded fits wide, ofDigitChars_padded] at taken

end Calendar

end Obligations
