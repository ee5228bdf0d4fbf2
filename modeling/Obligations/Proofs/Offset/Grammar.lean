import Obligations.Proofs.Offset.Text

/-! # What the grammar of offsets accepts

A text is read as an offset exactly if, apart from white space at its ends, it is a sign, digits and a word that tell
the offset. That case does not matter is no further freedom: a word that only resembles the name of a unit, because of
a letter whose lower-case form is another one, is refused.
-/

namespace Obligations

open Obligations.Number Obligations.Text

namespace Text

theorem exists_zero_of_isDecimalDigit {c : Char} (digit : isDecimalDigit c = true) :
    ∃ start ∈ digitZeros, start ≤ c.toNat ∧ c.toNat < start + 10 := by
  rw [isDecimalDigit, digitValue?] at digit
  split at digit
  next plain =>
    have bounds := toNat_bounds_of_isDigit plain
    exact ⟨0x30, by decide, bounds.1, by omega⟩
  next =>
    rw [Option.isSome_map] at digit
    obtain ⟨start, found⟩ := Option.isSome_iff_exists.mp digit
    have within := List.find?_some found
    rw [Bool.and_eq_true, decide_eq_true_eq, decide_eq_true_eq] at within
    exact ⟨start, List.mem_of_find?_eq_some found, within⟩

/-- No digits are among the characters that have another lower-case form. -/
private theorem digits_apart_from_case :
    (digitZeros.all fun start =>
      (start + 10 ≤ 65 || 128 ≤ start) && (start + 10 ≤ 0x130 || 0x130 < start) &&
        lowerRuns.all fun run => run.last < start || start + 10 ≤ run.first) = true := by
  decide +kernel

/-- Digits have no case. -/
theorem lowerChar_of_isDecimalDigit {c : Char} (digit : isDecimalDigit c = true) :
    c.toNat ≠ 0x130 ∧ lowerChar c = c := by
  obtain ⟨start, member, low, high⟩ := exists_zero_of_isDecimalDigit digit
  have apart := List.all_eq_true.mp digits_apart_from_case start member
  simp only [Bool.and_eq_true, Bool.or_eq_true, decide_eq_true_eq, List.all_eq_true] at apart
  obtain ⟨⟨plain, dotted⟩, runs⟩ := apart
  have notDotted : c.toNat ≠ 0x130 := by omega
  refine ⟨notDotted, ?_⟩
  rw [lowerChar, if_neg notDotted]
  split
  next =>
    have notUpper : ¬ (c.val ≥ 'A'.val ∧ c.val ≤ 'Z'.val) := by
      rintro ⟨upper, -⟩
      have bound : 65 ≤ c.toNat := UInt32.le_iff_toNat_le.mp upper
      omega
    exact dif_neg notUpper
  next =>
    have none : lowerRuns.find? (·.moves c.toNat) = none := by
      rw [List.find?_eq_none]
      intro run listed moves
      rw [CaseRun.moves, Bool.and_eq_true, Bool.and_eq_true, decide_eq_true_eq, decide_eq_true_eq] at moves
      rcases runs run listed with before | behind <;> omega
    rw [applyRuns, none]

/-- A text whose lower-case form begins with no digit begins with none. -/
theorem isDecimalDigit_of_lowerBehind {before rest letters : List Char} {c letter : Char}
    (lowered : lowerBehind before (c :: rest) = letter :: letters) (noDigit : isDecimalDigit letter = false) :
    isDecimalDigit c = false := by
  rw [← Bool.not_eq_true] at noDigit ⊢
  intro digit
  obtain ⟨notDotted, same⟩ := lowerChar_of_isDecimalDigit digit
  have notSigma : ¬ (c = 'Σ' && endsWord before rest) = true := by
    rw [Bool.and_eq_true, decide_eq_true_eq]
    rintro ⟨rfl, -⟩
    exact absurd digit (by decide)
  rw [lowerBehind, if_neg notDotted, if_neg notSigma, same] at lowered
  exact noDigit ((List.cons.inj lowered).1 ▸ digit)

theorem exists_digitsValue? {digits : List Char} (all : ∀ c ∈ digits, isDecimalDigit c = true) :
    ∃ amount, digitsValue? digits = some amount := by
  rw [digitsValue?]
  generalize 0 = start
  induction digits generalizing start with
  | nil => exact ⟨start, rfl⟩
  | cons c rest ih =>
    obtain ⟨digit, others⟩ := List.forall_mem_cons.mp all
    obtain ⟨value, found⟩ := Option.isSome_iff_exists.mp digit
    rw [List.foldlM_cons, found]
    exact ih others _

theorem isDecimalDigit_of_digitsValue? {digits : List Char} {amount : Nat}
    (value : digitsValue? digits = some amount) : ∀ c ∈ digits, isDecimalDigit c = true := by
  rw [digitsValue?] at value
  generalize 0 = start at value
  induction digits generalizing start with
  | nil => simp
  | cons c rest ih =>
    rw [List.foldlM_cons] at value
    obtain ⟨_, first, value⟩ := Option.bind_eq_some_iff.mp value
    obtain ⟨digit, found, -⟩ := Option.map_eq_some_iff.mp first
    rw [List.forall_mem_cons]
    exact ⟨Option.isSome_iff_exists.mpr ⟨digit, found⟩, ih _ value⟩

end Text

namespace Offset

variable {units : List TimeUnit} {malformed : OffsetFault} {digits word : List Char} {amount : Nat} {unit : TimeUnit}

/-- A word is what its lower-case form stands for when case does not matter, if that has plain letters only. -/
theorem isWord_of_lowerBehind {letters chars before : List Char} (plain : ∀ letter ∈ letters, letter.toNat < 128)
    (lowered : lowerBehind before chars = letters) : isWord letters chars = true := by
  induction chars generalizing letters before with
  | nil =>
    subst lowered
    rfl
  | cons c rest ih =>
    rw [lowerBehind] at lowered
    split_ifs at lowered
    next =>
      subst lowered
      exact absurd (plain (Char.ofNat 0x307) (by simp)) (by decide)
    next =>
      subst lowered
      exact absurd (plain 'ς' (by simp)) (by decide)
    next =>
      subst lowered
      rw [List.singleton_append, List.forall_mem_cons] at plain
      rw [List.singleton_append, isWord, ih plain.2 rfl, isLetter]
      simp

namespace Tells

variable (tells : Tells digits word amount unit)

include tells

theorem exists_word : ∃ isOne, lowerChars word = unit.word isOne := by
  rcases tells.named with one | several
  · exact ⟨true, one.trans (List.append_nil _).symm⟩
  · exact ⟨false, several⟩

theorem namesUnit : namesUnit unit word = true := by
  rw [Offset.namesUnit, Bool.or_eq_true]
  refine tells.named.imp (isWord_of_lowerBehind fun letter member => ?_)
    (isWord_of_lowerBehind fun letter member => ?_)
  · exact unit.plain_word true (List.mem_append_left _ member)
  · exact unit.plain_word false member

/-- The digits end where the word begins. -/
theorem span_eq : (digits ++ word).span isDecimalDigit = (digits, word) := by
  have all := isDecimalDigit_of_digitsValue? tells.value
  obtain ⟨isOne, lowered⟩ := tells.exists_word
  obtain ⟨letter, letters, same, noDigit⟩ := unit.exists_word isOne
  rw [same] at lowered
  cases word with
  | nil => cases lowered
  | cons c rest =>
    have letterFirst := isDecimalDigit_of_lowerBehind lowered noDigit
    rw [List.span_eq_takeWhile_dropWhile, List.takeWhile_append_of_pos all, List.dropWhile_append_of_pos all,
      List.takeWhile_cons_of_neg (by simp [letterFirst]), List.dropWhile_cons_of_neg (by simp [letterFirst]),
      List.append_nil]

theorem readUnsigned_eq (known : unit ∈ units) :
    readUnsigned units malformed (digits ++ word) = .ok ⟨amount, unit⟩ := by
  have named : units.any (Offset.namesUnit · word) = true := List.any_eq_true.mpr ⟨unit, known, tells.namesUnit⟩
  have given : digits.isEmpty = false := List.isEmpty_eq_false_iff.mpr tells.given
  obtain ⟨isOne, lowered⟩ := tells.exists_word
  rw [readUnsigned, tells.span_eq]
  dsimp only
  rw [given, named, lowered, TimeUnit.ofName?_word, tells.value, if_neg (by decide),
    if_neg (Nat.not_lt.mpr tells.short)]

/-- Digits begin with no sign. -/
theorem exists_digit : ∃ c rest, digits = c :: rest ∧ c ≠ '-' ∧ c ≠ '+' := by
  obtain ⟨c, rest, rfl⟩ := List.exists_cons_of_ne_nil tells.given
  have digit := isDecimalDigit_of_digitsValue? tells.value c List.mem_cons_self
  refine ⟨c, rest, rfl, ?_, ?_⟩
  all_goals
    rintro rfl
    exact absurd digit (by decide)

end Tells

/-- Behind a sign, exactly those digits and words are read that tell an amount of a known unit. -/
theorem readUnsigned_eq_ok_iff {chars : List Char} {result : Offset} :
    readUnsigned units malformed chars = .ok result ↔
      result.unit ∈ units ∧ ∃ digits word amount, chars = digits ++ word ∧ Tells digits word amount result.unit ∧
        result.amount = (amount : Int) := by
  refine ⟨exists_tells_of_readUnsigned, ?_⟩
  rintro ⟨known, digits, word, amount, rfl, tells, same⟩
  rw [tells.readUnsigned_eq known, ← same]

/-- Why a text is refused: it is not of the form of the grammar, it has too many digits, or its word names no unit. -/
inductive IsRefusal (malformed : OffsetFault) : OffsetFault → Prop
  | malformed : IsRefusal malformed malformed
  | tooLong {count : Nat} (long : digitLimit < count) : IsRefusal malformed (.amountTooLong count)
  | unknown {name : String} (none : TimeUnit.ofName? name = none) : IsRefusal malformed (.unknownUnit name)

theorem isRefusal_of_readUnsigned {chars : List Char} {fault : OffsetFault}
    (refused : readUnsigned units malformed chars = .error fault) : IsRefusal malformed fault := by
  rw [readUnsigned, List.span_eq_takeWhile_dropWhile] at refused
  dsimp only at refused
  split at refused
  next =>
    cases refused
    exact .malformed
  next =>
    split at refused
    next long =>
      cases refused
      exact .tooLong long
    next =>
      split at refused
      next => cases refused
      next unread =>
        cases refused
        obtain ⟨amount, value⟩ := exists_digitsValue? fun c (member : c ∈ chars.takeWhile isDecimalDigit) =>
          List.mem_takeWhile_imp member
        refine .unknown (Option.eq_none_iff_forall_ne_some.mpr fun unit found => ?_)
        exact unread amount unit value found

/-- What a sign makes of an amount: only a minus turns it round. -/
inductive IsSigned : List Char → Nat → Int → Prop
  | bare {amount : Nat} : IsSigned [] amount amount
  | plus {amount : Nat} : IsSigned ['+'] amount amount
  | minus {amount : Nat} : IsSigned ['-'] amount (-amount)

/-- A text is a calendar offset exactly if it is a sign, digits and a word that tell the offset. -/
theorem ofText_eq_ok_iff {text : String} {result : Offset} :
    ofText text = .ok result ↔ result.unit ∈ calendarUnits ∧ ∃ sign digits word amount,
      trimChars text.toList = sign ++ (digits ++ word) ∧ IsSigned sign amount result.amount ∧
        Tells digits word amount result.unit := by
  rw [ofText]
  constructor
  · intro read
    split at read
    next rest trimmed =>
      obtain ⟨value, unsigned, rfl⟩ := map_eq_ok.mp read
      obtain ⟨known, digits, word, amount, rfl, tells, same⟩ := exists_tells_of_readUnsigned unsigned
      refine ⟨known, ['-'], digits, word, amount, trimmed, ?_, tells⟩
      rw [same]
      exact .minus
    next rest trimmed =>
      obtain ⟨known, digits, word, amount, rfl, tells, same⟩ := exists_tells_of_readUnsigned read
      refine ⟨known, ['+'], digits, word, amount, trimmed, ?_, tells⟩
      rw [same]
      exact .plus
    next =>
      obtain ⟨known, digits, word, amount, split, tells, same⟩ := exists_tells_of_readUnsigned read
      refine ⟨known, [], digits, word, amount, split, ?_, tells⟩
      rw [same]
      exact .bare
  · obtain ⟨signed, unit⟩ := result
    rintro ⟨known, sign, digits, word, amount, split, sign, tells⟩
    rw [split]
    cases sign with
    | minus => exact map_eq_ok.mpr ⟨_, tells.readUnsigned_eq known, rfl⟩
    | plus => exact tells.readUnsigned_eq known
    | bare =>
      obtain ⟨c, rest, same, notMinus, notPlus⟩ := tells.exists_digit
      rw [List.nil_append]
      split
      next begins =>
        rw [same] at begins
        exact absurd (List.cons.inj begins).1 notMinus
      next begins =>
        rw [same] at begins
        exact absurd (List.cons.inj begins).1 notPlus
      next => exact tells.readUnsigned_eq known

/-- A text is a duration exactly if it is digits and a word that tell it. -/
theorem durationOfText_eq_ok_iff {text : String} {result : Offset} :
    durationOfText text = .ok result ↔ ∃ digits word amount, trimChars text.toList = digits ++ word ∧
      Tells digits word amount result.unit ∧ result.amount = (amount : Int) := by
  rw [durationOfText, readUnsigned_eq_ok_iff]
  have known : result.unit ∈ TimeUnit.all := by cases result.unit <;> decide
  exact and_iff_right known

theorem map_eq_error {step : Offset → Offset} {read : Except OffsetFault Offset} {fault : OffsetFault} :
    read.map step = .error fault ↔ read = .error fault := by
  cases read <;> simp [Except.map]

theorem isRefusal_of_ofText {text : String} {fault : OffsetFault} (refused : ofText text = .error fault) :
    IsRefusal (.notOffset text) fault := by
  rw [ofText] at refused
  split at refused
  next => exact isRefusal_of_readUnsigned (map_eq_error.mp refused)
  all_goals exact isRefusal_of_readUnsigned refused

theorem isOk_or_isRefused {read : Except OffsetFault Offset}
    (refusal : ∀ fault, read = .error fault → IsRefusal malformed fault) :
    (∃ offset, read = .ok offset) ∨ ∃ fault, read = .error fault ∧ IsRefusal malformed fault := by
  cases read with
  | ok offset => exact .inl ⟨offset, rfl⟩
  | error fault => exact .inr ⟨fault, rfl, refusal fault rfl⟩

/-- Without the white space at its ends, a text is a calendar offset exactly if it is a sign or none, digits, and a
word for a unit from the day on, and then is the offset that these tell; a duration has no sign and may count any
unit. All other texts are refused as offsets, for one of three reasons. -/
theorem texts_tellOffsets (text : String) :
    (∀ offset, ofText text = .ok offset ↔ offset.unit ∈ [TimeUnit.day, .week, .month, .year] ∧
      ∃ sign digits word amount, trimChars text.toList = sign ++ (digits ++ word) ∧
        IsSigned sign amount offset.amount ∧ Tells digits word amount offset.unit) ∧
    (∀ offset, durationOfText text = .ok offset ↔ ∃ digits word amount,
      trimChars text.toList = digits ++ word ∧ Tells digits word amount offset.unit ∧
        offset.amount = (amount : Int)) ∧
    ((∃ offset, ofText text = .ok offset) ∨
      ∃ fault, ofText text = .error fault ∧ IsRefusal (.notOffset text) fault) ∧
    ((∃ offset, durationOfText text = .ok offset) ∨
      ∃ fault, durationOfText text = .error fault ∧ IsRefusal (.notDuration text) fault) :=
  ⟨fun _ => ofText_eq_ok_iff, fun _ => durationOfText_eq_ok_iff,
    isOk_or_isRefused fun _ => isRefusal_of_ofText, isOk_or_isRefused fun _ => isRefusal_of_readUnsigned⟩

/-- The Kelvin sign is a capital k, so that its word is one for a week, and the digits may be of another script. -/
example : ofText " -٠٣wee\u212as\n" = .ok ⟨-3, .week⟩ := by decide

/-- A long s is a form of the letter up to case, but has no other form in lower case. -/
example : ofText "2dayſ" = .error (.unknownUnit "dayſ") := by decide

end Offset

end Obligations
