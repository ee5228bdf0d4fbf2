import Mathlib.Data.String.Basic
import Obligations.Proofs.Offset.Grammar
import Obligations.Proofs.Text.Cutting
import Obligations.Wording.Choice

/-! # Literals

What a field can be compared with in a choice: a whole number, a truth value, the absence of a value, or a text in
quotes. Each is read as what it stands for; a whole number is that of its plain digits, and has no letters whose case
could matter. Signs of comparisons can stand in a literal only inside its quotes.
-/

namespace Obligations

open Obligations.Number Obligations.Text

namespace Number

/-- What may stand before the digits of a whole number. -/
inductive Mark where
  | none
  | plus
  | minus
deriving DecidableEq

namespace Mark

def chars : Mark → List Char
  | .none => []
  | .plus => ['+']
  | .minus => ['-']

/-- The number with a mark before its digits. -/
def signed (n : Nat) : Mark → Int
  | .minus => -n
  | _ => n

end Mark

/-- A whole numeral: an optional sign and plain digits, of which there are not too many. -/
structure Numeral where
  mark : Mark
  digits : List Char
  given : digits ≠ []
  plain : ∀ c ∈ digits, c.isDigit = true
  short : digits.length ≤ digitLimit

namespace Numeral

variable (numeral : Numeral)

def chars : List Char :=
  numeral.mark.chars ++ numeral.digits

def value : Int :=
  numeral.mark.signed (Nat.ofDigitChars 10 numeral.digits 0)

theorem exists_digit : ∃ c ∈ numeral.chars, c.isDigit = true := by
  obtain ⟨c, rest, same⟩ := List.exists_cons_of_ne_nil numeral.given
  have listed : c ∈ numeral.digits := same ▸ List.mem_cons_self
  exact ⟨c, List.mem_append_right _ listed, numeral.plain c listed⟩

variable {numeral}

theorem chars_cases {c : Char} (listed : c ∈ numeral.chars) : c.isDigit = true ∨ c = '+' ∨ c = '-' := by
  rcases List.mem_append.mp listed with mark | digit
  · refine .inr ?_
    cases own : numeral.mark <;> simp_all [Mark.chars]
  · exact .inl (numeral.plain c digit)

theorem isBlank_eq {c : Char} (listed : c ∈ numeral.chars) : isBlank c = false := by
  rcases chars_cases listed with digit | rfl | rfl
  · exact isBlank_of_isDigit digit
  · rfl
  · rfl

variable (numeral)

theorem chars_ne_nil : numeral.chars ≠ [] := by
  obtain ⟨c, listed, -⟩ := numeral.exists_digit
  exact List.ne_nil_of_mem listed

theorem trimNumeral_chars : trimNumeral numeral.chars = numeral.chars := by
  have kept {row : List Char} (own : ∀ c ∈ row, isNumeralBlank c = false) : row.dropWhile isNumeralBlank = row := by
    cases row with
    | nil => rfl
    | cons c rest => exact List.dropWhile_cons_of_neg (by simp [own c])
  have solid : ∀ c ∈ numeral.chars, isNumeralBlank c = false := fun c listed => by
    rw [isNumeralBlank, isBlank_eq listed, Bool.false_and]
  rw [trimNumeral, kept solid, kept (by simpa using solid), List.reverse_reverse]

theorem takeSign_chars : takeSign numeral.chars = (decide (numeral.mark = .minus), numeral.digits) := by
  obtain ⟨c, rest, same⟩ := List.exists_cons_of_ne_nil numeral.given
  have digit : c.isDigit = true := numeral.plain c (same ▸ List.mem_cons_self)
  cases marked : numeral.mark with
  | minus => rw [chars, marked]; rfl
  | plus => rw [chars, marked]; rfl
  | none =>
    rw [chars, marked, same, Mark.chars, List.nil_append]
    unfold takeSign
    split
    next minus => cases minus; cases digit
    next plus => cases plus; cases digit
    next => rfl

end Numeral

theorem groupedDigits?_of_isDigit {digits : List Char} (given : digits ≠ [])
    (plain : ∀ c ∈ digits, c.isDigit = true) : groupedDigits? digits = some digits := by
  induction digits with
  | nil => exact absurd rfl given
  | cons c rest ih =>
    obtain ⟨first, others⟩ := List.forall_mem_cons.mp plain
    cases rest with
    | nil => rw [groupedDigits?, if_pos (isDecimalDigit_of_isDigit first)]
    | cons d more =>
      have digit := (List.forall_mem_cons.mp others).1
      rw [groupedDigits?, if_pos (isDecimalDigit_of_isDigit first), ih (List.cons_ne_nil _ _) others]
      · rfl
      · rintro rfl
        cases digit

/-- A numeral is read as the number that it denotes. -/
theorem readInt_chars (numeral : Numeral) : readInt numeral.chars = .ok numeral.value := by
  rw [readInt, numeral.trimNumeral_chars, numeral.takeSign_chars]
  dsimp only
  rw [groupedDigits?_of_isDigit numeral.given numeral.plain]
  dsimp only
  rw [if_neg (Nat.not_lt.mpr numeral.short), digitsValue?_of_isDigit numeral.plain, Numeral.value]
  cases numeral.mark <;> rfl

end Number

namespace Text

/-- A character that has no case is its own lower-case form, whatever stands around it. -/
theorem lowerBehind_of_caseless {chars : List Char}
    (caseless : ∀ c ∈ chars, c.toNat ≠ 0x130 ∧ c ≠ 'Σ' ∧ lowerChar c = c) (before : List Char) :
    lowerBehind before chars = chars := by
  induction chars generalizing before with
  | nil => rfl
  | cons c rest ih =>
    obtain ⟨⟨undotted, other, same⟩, others⟩ := List.forall_mem_cons.mp caseless
    rw [lowerBehind, if_neg undotted, if_neg (by simp [other]), same, ih others, List.singleton_append]

/-- Numerals have no case. -/
theorem lowerChars_numeral (numeral : Numeral) : lowerChars numeral.chars = numeral.chars := by
  refine lowerBehind_of_caseless (fun c listed => ?_) []
  rcases Numeral.chars_cases listed with digit | rfl | rfl
  · obtain ⟨undotted, same⟩ := lowerChar_of_isDecimalDigit (isDecimalDigit_of_isDigit digit)
    refine ⟨undotted, ?_, same⟩
    rintro rfl
    cases digit
  · decide
  · decide

end Text

namespace Wording

namespace Relation

def signs : List Char := ['>', '<', '=', '!']

theorem sign_ne_nil (relation : Relation) : relation.sign.toList ≠ [] := by
  cases relation <;> decide

theorem mem_signs {relation : Relation} {c : Char} (listed : c ∈ relation.sign.toList) : c ∈ signs := by
  revert c
  cases relation <;> decide

/-- Whatever the comparison, some text stands in it to a text if the absence of a value does not, and the other way
round. -/
theorem exists_holds_ne (relation : Relation) {content : String} (given : content ≠ "") :
    ∃ other : String, relation.holds (.text other) (.text content) ≠ relation.holds .null (.text content) := by
  have ordered (other : String) : literalOrder? (.text other) (.text content) = some (compare other content) := rfl
  have unordered : literalOrder? .null (.text content) = none := rfl
  have agrees : looselySame (.text content) (.text content) = true := beq_self_eq_true content
  have disagrees : looselySame .null (.text content) = false := rfl
  have shorter : "" < content := by
    obtain ⟨c, rest, same⟩ := List.exists_cons_of_ne_nil (mt String.toList_eq_nil_iff.mp given)
    rw [String.lt_iff_toList_lt, same]
    exact List.nil_lt_cons c rest
  have longer : content < content ++ "a" := by
    rw [String.lt_iff_toList_lt, String.toList_append]
    simpa using List.append_left_lt (List.nil_lt_cons 'a' [])
  cases relation with
  | atLeast | atMost => exact ⟨content, by simp [holds, ordered, unordered]⟩
  | above => exact ⟨content ++ "a", by simp [holds, ordered, unordered, compare_gt_iff_gt.mpr longer]⟩
  | below => exact ⟨"", by simp [holds, ordered, unordered, compare_lt_iff_lt.mpr shorter]⟩
  | same | different => exact ⟨content, by simp [holds, agrees, disagrees]⟩

end Relation

/-- Whether characters have no part in signs. -/
def IsSilent (chars : List Char) : Prop :=
  ∀ c ∈ chars, c ∉ Relation.signs

instance (chars : List Char) : Decidable (IsSilent chars) :=
  inferInstanceAs (Decidable (∀ c ∈ chars, c ∉ Relation.signs))

/-- White space has no part in signs. -/
theorem isSilent_of_blank {gap : List Char} (blank : ∀ c ∈ gap, isBlank c = true) : IsSilent gap := by
  intro c listed sign
  have own := blank c listed
  simp only [Relation.signs, List.mem_cons, List.not_mem_nil, or_false] at sign
  rcases sign with rfl | rfl | rfl | rfl <;> cases own

theorem IsSilent.append {left right : List Char} (first : IsSilent left) (second : IsSilent right) :
    IsSilent (left ++ right) :=
  List.forall_mem_append.mpr ⟨first, second⟩

/-- The quotes that a literal may be in. -/
inductive Quote where
  | single
  | double
deriving DecidableEq

def Quote.char : Quote → Char
  | .single => '\''
  | .double => '"'

theorem Quote.notMem_signs (quote : Quote) : quote.char ∉ Relation.signs := by
  cases quote <;> decide

theorem Quote.isBlank_char (quote : Quote) : isBlank quote.char = false := by
  cases quote <;> rfl

/-- Whether a character may stand in a part of a choice, which ends at a colon or at the closing brace. -/
def IsInPart (c : Char) : Prop :=
  c ≠ ':' ∧ c ≠ '\x7d'

instance (c : Char) : Decidable (IsInPart c) :=
  inferInstanceAs (Decidable (_ ∧ _))

theorem Quote.isInPart_char (quote : Quote) : IsInPart quote.char := by
  cases quote <;> decide

/-- A literal: a whole numeral, a truth value, the absence of a value, or a text in quotes. -/
inductive Literal where
  | numeral (own : Numeral)
  | truth (value : Bool)
  | null
  | quoted (quote : Quote) (content : List Char) (within : ∀ c ∈ content, IsInPart c)

namespace Literal

/-- A literal up to the content of its quotes, if it is in quotes. -/
def opening : Literal → List Char
  | .numeral own => own.chars
  | .truth value => (if value then "true" else "false").toList
  | .null => "null".toList
  | .quoted quote _ _ => [quote.char]

/-- What stands inside the quotes. -/
def inside : Literal → List Char
  | .quoted _ content _ => content
  | _ => []

/-- The quote behind it. -/
def closing : Literal → List Char
  | .quoted quote _ _ => [quote.char]
  | _ => []

def chars (operand : Literal) : List Char :=
  operand.opening ++ (operand.inside ++ operand.closing)

def value : Literal → Value
  | .numeral own => .int own.value
  | .truth value => .bool value
  | .null => .null
  | .quoted _ content _ => .text (String.ofList content)

theorem chars_numeral (own : Numeral) : (numeral own).chars = own.chars :=
  List.append_nil _

theorem chars_quoted {quote : Quote} {content : List Char} (within : ∀ c ∈ content, IsInPart c) :
    (quoted quote content within).chars = quote.char :: (content ++ [quote.char]) := rfl

theorem opening_ne_nil (operand : Literal) : operand.opening ≠ [] := by
  cases operand with
  | numeral own => exact own.chars_ne_nil
  | truth value => cases value <;> decide
  | null => decide
  | quoted quote content => exact List.cons_ne_nil _ _

theorem isSilent_opening (operand : Literal) : IsSilent operand.opening := by
  cases operand with
  | numeral own =>
    intro c listed
    rcases Numeral.chars_cases listed with digit | rfl | rfl
    · simp only [Relation.signs, List.mem_cons, List.not_mem_nil, or_false]
      rintro (rfl | rfl | rfl | rfl) <;> cases digit
    · decide
    · decide
  | truth value => cases value <;> decide
  | null => decide
  | quoted quote content => exact List.forall_mem_singleton.mpr quote.notMem_signs

theorem isSilent_closing (operand : Literal) : IsSilent operand.closing := by
  cases operand with
  | quoted quote content => exact List.forall_mem_singleton.mpr quote.notMem_signs
  | _ => exact List.forall_mem_nil _

theorem isInPart_chars (operand : Literal) : ∀ c ∈ operand.chars, IsInPart c := by
  cases operand with
  | numeral own =>
    intro c listed
    rw [chars_numeral] at listed
    rcases Numeral.chars_cases listed with digit | rfl | rfl
    · constructor <;> rintro rfl <;> cases digit
    · decide
    · decide
  | truth value => cases value <;> decide
  | null => decide
  | quoted quote content within =>
    rw [chars_quoted within, List.forall_mem_cons, List.forall_mem_append, List.forall_mem_singleton]
    exact ⟨quote.isInPart_char, within, quote.isInPart_char⟩

theorem isBlank_getLast? (operand : Literal) : ∀ c ∈ operand.chars.getLast?, isBlank c = false := by
  cases operand with
  | numeral own =>
    intro c last
    rw [chars_numeral] at last
    exact Numeral.isBlank_eq (List.mem_of_mem_getLast? last)
  | truth value => cases value <;> decide
  | null => decide
  | quoted quote content within =>
    rw [chars_quoted within, ← List.cons_append, List.getLast?_concat]
    rintro c ⟨⟩
    exact quote.isBlank_char

theorem isBlank_head? (operand : Literal) : ∀ c ∈ operand.chars.head?, isBlank c = false := by
  cases operand with
  | numeral own =>
    intro c first
    rw [chars_numeral] at first
    exact Numeral.isBlank_eq (List.mem_of_mem_head? first)
  | truth value => cases value <;> decide
  | null => decide
  | quoted quote content within =>
    rintro c ⟨⟩
    exact quote.isBlank_char

theorem unquoted?_numeral (own : Numeral) : unquoted? own.chars = none := by
  obtain ⟨c, rest, same⟩ := List.exists_cons_of_ne_nil own.chars_ne_nil
  have plain : (c == '\'' || c == '"') = false := by
    rcases Numeral.chars_cases (same ▸ List.mem_cons_self) with digit | rfl | rfl
    · rw [Bool.or_eq_false_iff, beq_eq_false_iff_ne, beq_eq_false_iff_ne]
      constructor <;> rintro rfl <;> cases digit
    · rfl
    · rfl
  rw [same, unquoted?, plain, Bool.false_and, if_neg Bool.false_ne_true]

theorem unquoted?_quoted (quote : Quote) (content : List Char) :
    unquoted? (quote.char :: (content ++ [quote.char])) = some content := by
  have sign : (quote.char == '\'' || quote.char == '"') = true := by cases quote <;> rfl
  rw [unquoted?, sign, List.getLast?_concat, beq_self_eq_true, Bool.and_self, if_pos rfl, List.dropLast_concat]

/-- No word has a digit. -/
theorem lookup_literalWords_of_digit {chars : List Char} (digit : ∃ c ∈ chars, c.isDigit = true) :
    literalWords.lookup (String.ofList chars) = none := by
  obtain ⟨c, listed, digit⟩ := digit
  have words : ∀ entry ∈ literalWords, ∀ c ∈ entry.1.toList, c.isDigit = false := by decide
  rw [List.lookup_eq_none_iff]
  intro entry member
  rw [bne_iff_ne]
  intro same
  have letters := words entry member c (by rwa [← same, String.toList_ofList])
  rw [digit] at letters
  cases letters

/-- A literal is read as what it stands for, also behind white space. -/
theorem literal_chars {gap : List Char} (blank : ∀ c ∈ gap, isBlank c = true) (operand : Literal) :
    literal (String.ofList (gap ++ operand.chars)) = operand.value := by
  have trimmed : trimChars (String.ofList (gap ++ operand.chars)).toList = operand.chars := by
    rw [String.toList_ofList, trimChars_blank_append blank]
    exact trimChars_of_ends operand.isBlank_head? operand.isBlank_getLast?
  rw [literal, trimmed]
  cases operand with
  | numeral own =>
    have lowered : lower (String.ofList own.chars) = String.ofList own.chars := by
      rw [lower, String.toList_ofList, lowerChars_numeral]
    rw [chars_numeral, unquoted?_numeral, lowered, lookup_literalWords_of_digit own.exists_digit, readInt_chars]
    rfl
  | truth value => cases value <;> rfl
  | null => rfl
  | quoted quote content within =>
    rw [chars_quoted within, unquoted?_quoted]
    rfl

end Literal

end Wording

end Obligations
