import Mathlib.Data.List.TakeDrop
import Mathlib.Data.List.TakeWhile
import Mathlib.Tactic.SplitIfs
import Obligations.Offset.Grammar
import Obligations.Proofs.Number.Digits

/-! # Offsets and their texts

A text of the grammar stands for an offset of a unit that the grammar knows, and the text of such an offset
is read as it again. The text of any other offset is refused.
-/

namespace Obligations

open Obligations.Number Obligations.Text

namespace Text

theorem isBlank_of_isDigit {c : Char} (digit : c.isDigit = true) : isBlank c = false := by
  have bounds := toNat_bounds_of_isDigit digit
  simp only [isBlank, inRanges, blankRanges, CodeRange.contains, List.any_cons, List.any_nil, Bool.or_false,
    Bool.or_eq_false_iff, Bool.and_eq_false_iff, decide_eq_false_iff_not]
  omega

/-- Nothing is taken off a text that has no white space at its ends. -/
theorem trimChars_of_solid {front middle : List Char} {first last : Char} (begins : isBlank first = false)
    (ends : isBlank last = false) (split : first :: front = middle ++ [last]) :
    trimChars (first :: front) = first :: front := by
  rw [trimChars, trimLeft_cons_of_not_blank begins, trimRight, split, List.reverse_append,
    List.reverse_singleton, List.singleton_append, List.dropWhile_cons_of_neg (by simp [ends]),
    List.reverse_cons, List.reverse_reverse]

end Text

namespace TimeUnit

def word (unit : TimeUnit) (isOne : Bool) : List Char :=
  unit.name.toList ++ (if isOne then "" else "s").toList

theorem exists_word (unit : TimeUnit) (isOne : Bool) :
    ∃ c rest, unit.word isOne = c :: rest ∧ isDecimalDigit c = false := by
  cases unit <;> cases isOne <;> exact ⟨_, _, rfl, by decide⟩

theorem exists_word_eq_concat (unit : TimeUnit) (isOne : Bool) :
    ∃ middle last, unit.word isOne = middle ++ [last] ∧ isBlank last = false := by
  refine ⟨(unit.word isOne).dropLast, (unit.word isOne).getLast ?_,
    (List.dropLast_concat_getLast _).symm, ?_⟩
  all_goals cases unit <;> cases isOne <;> decide

/-- The words for units have plain letters only. -/
theorem plain_word (unit : TimeUnit) (isOne : Bool) {letter : Char} (member : letter ∈ unit.word isOne) :
    letter.toNat < 128 := by
  have plain : (unit.word isOne).all (fun letter => letter.toNat < 128) = true := by
    cases unit <;> cases isOne <;> rfl
  exact of_decide_eq_true (List.all_eq_true.mp plain letter member)

/-- The word for a unit names this unit only. -/
theorem namesUnit_word (other unit : TimeUnit) (isOne : Bool) :
    Offset.namesUnit other (unit.word isOne) = decide (other = unit) := by
  cases other <;> cases unit <;> cases isOne <;> rfl

theorem lowerChars_word (unit : TimeUnit) (isOne : Bool) :
    lowerChars (unit.word isOne) = unit.word isOne := by
  cases unit <;> cases isOne <;> decide

/-- The word for a unit, without an `s` at its end, is the name of the unit. -/
theorem ofName?_word (unit : TimeUnit) (isOne : Bool) :
    ofName? (String.ofList ((unit.word isOne).reverse.dropWhile (· == 's')).reverse) = some unit := by
  cases unit <;> cases isOne <;> decide

end TimeUnit

namespace Offset

variable {units : List TimeUnit} {malformed : OffsetFault}

/-- Whether an offset has no more digits than texts may have. -/
def IsShort (offset : Offset) : Prop :=
  (digitsOf offset.amount.natAbs).length ≤ digitLimit

theorem toList_text (offset : Offset) : offset.text.toList =
    (if offset.amount < 0 then ['-'] else []) ++ (digitsOf offset.amount.natAbs ++
      offset.unit.word (decide (offset.amount.natAbs = 1))) := by
  rw [text, intText, String.toList_append, String.toList_append, TimeUnit.word]
  split <;> simp

/-- Digits are told apart from the word behind them. -/
theorem span_digitsOf (n : Nat) (unit : TimeUnit) (isOne : Bool) :
    (digitsOf n ++ unit.word isOne).span isDecimalDigit = (digitsOf n, unit.word isOne) := by
  have digits : ∀ c ∈ digitsOf n, isDecimalDigit c = true := fun c member =>
    isDecimalDigit_of_isDigit (isDigit_digitsOf member)
  obtain ⟨c, rest, same, letter⟩ := unit.exists_word isOne
  rw [List.span_eq_takeWhile_dropWhile, List.takeWhile_append_of_pos digits,
    List.dropWhile_append_of_pos digits, same, List.takeWhile_cons_of_neg (by simp [letter]),
    List.dropWhile_cons_of_neg (by simp [letter]), List.append_nil]

/-- Digits and the word for a unit are read if the unit is known and the digits are not too many. -/
theorem readUnsigned_word {n : Nat} {unit : TimeUnit} {isOne : Bool} {result : Offset} :
    readUnsigned units malformed (digitsOf n ++ unit.word isOne) = .ok result ↔
      unit ∈ units ∧ (digitsOf n).length ≤ digitLimit ∧ ⟨n, unit⟩ = result := by
  have known : units.any (namesUnit · (unit.word isOne)) = decide (unit ∈ units) := by
    simp only [TimeUnit.namesUnit_word, List.any_eq]
    simp
  rw [readUnsigned, span_digitsOf]
  dsimp only
  rw [known, digitsValue?_digitsOf, TimeUnit.lowerChars_word, TimeUnit.ofName?_word]
  by_cases listed : unit ∈ units
  · by_cases long : digitLimit < (digitsOf n).length
    · simp [listed, long, digitsOf_ne_nil, Nat.not_le.mpr long]
    · simp [listed, long, digitsOf_ne_nil, Nat.le_of_not_lt long]
  · simp [listed]

theorem map_eq_ok {step : Offset → Offset} {read : Except OffsetFault Offset} {result : Offset} :
    read.map step = .ok result ↔ ∃ value, read = .ok value ∧ step value = result := by
  cases read <;> simp [Except.map]

theorem not_readUnsigned_minus {chars : List Char} {result : Offset} :
    readUnsigned units malformed ('-' :: chars) ≠ .ok result := by
  have minus : isDecimalDigit '-' = false := by decide
  rw [readUnsigned, List.span_eq_takeWhile_dropWhile, List.takeWhile_cons_of_neg (by simp [minus])]
  simp

/-- The text of an offset has no white space at its ends. -/
theorem trimChars_text (offset : Offset) : trimChars offset.text.toList = offset.text.toList := by
  obtain ⟨middle, last, ends, solid⟩ :=
    offset.unit.exists_word_eq_concat (decide (offset.amount.natAbs = 1))
  obtain ⟨digit, digits, same⟩ := List.exists_cons_of_ne_nil (digitsOf_ne_nil offset.amount.natAbs)
  have plain : isBlank digit = false := isBlank_of_isDigit (isDigit_digitsOf (same ▸ List.mem_cons_self))
  rw [toList_text, ends, same]
  split
  next =>
    have split : ['-'] ++ (digit :: digits ++ (middle ++ [last])) =
        '-' :: digit :: (digits ++ middle) ++ [last] := by
      simp
    exact trimChars_of_solid (by decide) solid split
  next =>
    have split : [] ++ (digit :: digits ++ (middle ++ [last])) = digit :: (digits ++ middle) ++ [last] := by
      simp
    exact trimChars_of_solid plain solid split

/-- The text of an offset is a duration exactly if it has no sign and not too many digits. -/
theorem durationOfText_text {offset result : Offset} :
    durationOfText offset.text = .ok result ↔ 0 ≤ offset.amount ∧ offset.IsShort ∧ offset = result := by
  rw [durationOfText, trimChars_text, toList_text]
  split
  next behind =>
    simp [not_readUnsigned_minus, Int.not_le.mpr behind]
  next ahead =>
    have known : offset.unit ∈ TimeUnit.all := by cases offset.unit <;> decide
    have amount : (offset.amount.natAbs : Int) = offset.amount := by omega
    rw [List.nil_append, readUnsigned_word, amount]
    constructor
    · rintro ⟨-, short, same⟩
      exact ⟨by omega, short, same⟩
    · rintro ⟨-, short, same⟩
      exact ⟨known, short, same⟩

/-- The text of an offset is a calendar offset exactly if it counts days or something longer, and has not too
many digits. -/
theorem ofText_text {offset result : Offset} :
    ofText offset.text = .ok result ↔ offset.unit ∈ calendarUnits ∧ offset.IsShort ∧ offset = result := by
  rw [ofText, trimChars_text, toList_text]
  split_ifs with behind
  · have amount : -(offset.amount.natAbs : Int) = offset.amount := by omega
    simp only [List.singleton_append, map_eq_ok, readUnsigned_word]
    constructor
    · rintro ⟨_, ⟨known, short, rfl⟩, rfl⟩
      exact ⟨known, short, by rw [amount]⟩
    · rintro ⟨known, short, rfl⟩
      exact ⟨_, ⟨known, short, rfl⟩, by rw [amount]⟩
  · have amount : (offset.amount.natAbs : Int) = offset.amount := by omega
    have solid : ∀ c rest, digitsOf offset.amount.natAbs ++
        offset.unit.word (decide (offset.amount.natAbs = 1)) = c :: rest → c.isDigit = true := by
      intro c rest begins
      obtain ⟨digit, digits, same⟩ := List.exists_cons_of_ne_nil (digitsOf_ne_nil offset.amount.natAbs)
      rw [same, List.cons_append] at begins
      rw [← (List.cons.inj begins).1]
      exact isDigit_digitsOf (same ▸ List.mem_cons_self)
    rw [List.nil_append]
    split
    next rest begins => exact absurd (solid _ _ begins) (by decide)
    next rest begins => exact absurd (solid _ _ begins) (by decide)
    next =>
      rw [readUnsigned_word, amount]
      rfl

/-- A letter in lower case is the one that a character stands for when case does not matter, or its lower-case
form has a character that is no plain letter. -/
theorem lowerChar_of_isLetter {letter c : Char} (named : isLetter letter c = true) :
    lowerChar c = letter ∨ 128 ≤ (lowerChar c).toNat := by
  rw [isLetter, Bool.or_eq_true, Bool.or_eq_true] at named
  rcases named with (lowered | long) | dotless
  · exact .inl (beq_iff_eq.mp lowered)
  · rw [Bool.and_eq_true] at long
    rw [beq_iff_eq.mp long.2]
    exact .inr (by decide)
  · rw [Bool.and_eq_true] at dotless
    rw [beq_iff_eq.mp dotless.2]
    exact .inr (by decide)

/-- A word in lower case is the one that it stands for when case does not matter, or it has a character that is
no plain letter. -/
theorem lowerBehind_of_isWord {letters chars : List Char} (named : isWord letters chars = true)
    (before : List Char) :
    lowerBehind before chars = letters ∨ ∃ d ∈ lowerBehind before chars, 128 ≤ d.toNat := by
  induction letters generalizing chars before with
  | nil =>
    cases chars with
    | nil => exact .inl rfl
    | cons c rest => cases named
  | cons letter letters ih =>
    cases chars with
    | nil => cases named
    | cons c rest =>
      rw [isWord, Bool.and_eq_true] at named
      rcases ih named.2 (c :: before) with same | ⟨d, member, strange⟩
      · rw [lowerBehind, same]
        -- a dotted capital leaves its dot behind it, and a sigma at the end has a form of its own
        split_ifs
        · exact .inr ⟨_, List.mem_cons_of_mem _ List.mem_cons_self, by decide⟩
        · exact .inr ⟨_, List.mem_cons_self, by decide⟩
        · rcases lowerChar_of_isLetter named.1 with lowered | strange
          · exact .inl (by rw [lowered]; rfl)
          · exact .inr ⟨_, List.mem_cons_self, strange⟩
      · exact .inr ⟨d, List.mem_append_right _ member, strange⟩

/-- A word that names a unit is the word for it in lower case, or its lower-case form names none. -/
theorem lowerChars_of_namesUnit {unit other : TimeUnit} {chars : List Char} (named : namesUnit unit chars = true)
    (found : TimeUnit.ofName? (String.ofList ((lowerChars chars).reverse.dropWhile (· == 's')).reverse) =
      some other) : ∃ isOne, lowerChars chars = unit.word isOne := by
  have words : ∃ isOne, isWord (unit.word isOne) chars = true := by
    rw [namesUnit, Bool.or_eq_true] at named
    rcases named with one | several
    · exact ⟨true, by simpa [TimeUnit.word] using one⟩
    · exact ⟨false, several⟩
  obtain ⟨isOne, word⟩ := words
  refine ⟨isOne, (lowerBehind_of_isWord word []).resolve_right ?_⟩
  rintro ⟨d, member, strange⟩
  have name : other.name.toList = ((lowerChars chars).reverse.dropWhile (· == 's')).reverse := by
    have equal := List.find?_some found
    rw [beq_iff_eq.mp equal, String.toList_ofList]
  -- only plain letters are taken off at the end, so the strange one would be in the name
  have kept : d ∈ other.name.toList := by
    rw [name, List.mem_reverse]
    have split : d ∈ (lowerChars chars).reverse.takeWhile (· == 's') ++
        (lowerChars chars).reverse.dropWhile (· == 's') := by
      rw [List.takeWhile_append_dropWhile]
      exact List.mem_reverse.mpr member
    rcases List.mem_append.mp split with taken | left
    · have own : d = 's' := by simpa using List.mem_takeWhile_imp taken
      rw [own] at strange
      exact absurd strange (by decide)
    · exact left
  have plain : d.toNat < 128 := other.plain_word true (List.mem_append_left _ kept)
  exact absurd plain (Nat.not_lt.mpr strange)

/-- Whether digits and a word tell an amount of a unit: one or more decimal digits of any script, not too many of
them, and a word that in lower case is the name of the unit, with or without an `s`. -/
structure Tells (digits word : List Char) (amount : Nat) (unit : TimeUnit) : Prop where
  given : digits ≠ []
  short : digits.length ≤ digitLimit
  value : digitsValue? digits = some amount
  named : lowerChars word = unit.name.toList ∨ lowerChars word = unit.name.toList ++ ['s']

/-- What is read behind a sign are digits and a word that tell an amount of a unit that is known. -/
theorem exists_tells_of_readUnsigned {chars : List Char} {result : Offset}
    (read : readUnsigned units malformed chars = .ok result) :
    result.unit ∈ units ∧ ∃ digits word amount, chars = digits ++ word ∧ Tells digits word amount result.unit ∧
      result.amount = (amount : Int) := by
  rw [readUnsigned, List.span_eq_takeWhile_dropWhile] at read
  dsimp only at read
  split at read
  next => cases read
  next listed =>
    split at read
    next => cases read
    next short =>
      split at read
      next amount unit denoted found =>
        cases read
        simp only [Bool.or_eq_true, Bool.not_eq_true', not_or, Bool.not_eq_false, List.any_eq_true] at listed
        obtain ⟨given, named, member, word⟩ := listed
        obtain ⟨isOne, lowered⟩ := lowerChars_of_namesUnit word found
        rw [lowered, TimeUnit.ofName?_word] at found
        obtain rfl := Option.some.inj found
        refine ⟨member, _, _, amount, List.takeWhile_append_dropWhile.symm, ⟨?_, ?_, denoted, ?_⟩, rfl⟩
        · simpa using given
        · exact Nat.le_of_not_lt short
        · rw [lowered]
          cases isOne
          · exact .inr rfl
          · exact .inl (List.append_nil _)
      next => cases read

/-- What is read behind a sign counts a unit that is known, and has no more digits than its text. -/
theorem readUnsigned_spec {chars : List Char} {result : Offset}
    (read : readUnsigned units malformed chars = .ok result) :
    result.unit ∈ units ∧ 0 ≤ result.amount ∧ result.IsShort := by
  obtain ⟨known, digits, word, amount, -, tells, same⟩ := exists_tells_of_readUnsigned read
  refine ⟨known, by omega, ?_⟩
  rw [IsShort, same, Int.natAbs_natCast]
  exact (length_digitsOf_le tells.value tells.given).trans tells.short

/-- A duration in text has no sign and not too many digits. -/
theorem durationOfText_spec {content : String} {result : Offset}
    (read : durationOfText content = .ok result) : 0 ≤ result.amount ∧ result.IsShort :=
  (readUnsigned_spec read).2

/-- A calendar offset in text counts days or something longer, and has not too many digits. -/
theorem ofText_spec {content : String} {result : Offset} (read : ofText content = .ok result) :
    result.unit ∈ calendarUnits ∧ result.IsShort := by
  rw [ofText] at read
  split at read
  next =>
    obtain ⟨value, unsigned, rfl⟩ := map_eq_ok.mp read
    obtain ⟨known, -, short⟩ := readUnsigned_spec unsigned
    exact ⟨known, by simpa [IsShort] using short⟩
  all_goals
    obtain ⟨known, -, short⟩ := readUnsigned_spec read
    exact ⟨known, short⟩

/-- The text of an offset is read as this offset exactly if the grammar knows its unit, or its sign, and it has not
too many digits. So what has been read from a text is read again from its own text. -/
theorem text_isRead (offset : Offset) (text : String) :
    (ofText offset.text = .ok offset ↔
      offset.unit ∈ [TimeUnit.day, .week, .month, .year] ∧ (digitsOf offset.amount.natAbs).length ≤ 4300) ∧
    (durationOfText offset.text = .ok offset ↔
      0 ≤ offset.amount ∧ (digitsOf offset.amount.natAbs).length ≤ 4300) ∧
    ((ofText text).bind fun read => ofText read.text) = ofText text ∧
    ((durationOfText text).bind fun read => durationOfText read.text) = durationOfText text := by
  refine ⟨?_, ?_, ?_, ?_⟩
  · rw [ofText_text]
    exact and_congr_right fun _ => and_iff_left rfl
  · rw [durationOfText_text]
    exact and_congr_right fun _ => and_iff_left rfl
  · cases read : ofText text with
    | error fault => rfl
    | ok result =>
      obtain ⟨known, short⟩ := ofText_spec read
      exact ofText_text.mpr ⟨known, short, rfl⟩
  · cases read : durationOfText text with
    | error fault => rfl
    | ok result =>
      obtain ⟨unsigned, short⟩ := durationOfText_spec read
      exact durationOfText_text.mpr ⟨unsigned, short, rfl⟩

/-- The least number of days that has more digits than texts may have. -/
def tooManyDays : Offset :=
  ⟨(10 ^ digitLimit : Nat), .day⟩

/-- An amount with too many digits cannot be printed, and the text that it would have is not read. -/
theorem text_tooManyDays :
    0 ≤ tooManyDays.amount ∧ tooManyDays.text? = none ∧ durationOfText tooManyDays.text ≠ .ok tooManyDays := by
  refine ⟨Int.natCast_nonneg _, by decide +kernel, fun read => ?_⟩
  obtain ⟨-, short, -⟩ := durationOfText_text.mp read
  rw [IsShort, tooManyDays, Int.natAbs_natCast] at short
  exact Nat.lt_irrefl _ ((Nat.length_toDigits_le_iff (by decide) (by decide)).mp short)

end Offset

end Obligations
