import Obligations.Proofs.Condition.Diagnosis
import Mathlib.Data.List.TakeDrop
import Mathlib.Data.List.TakeWhile

/-! # What the guard against slow patterns stops

The guard looks for characters that stand in a row, whatever they mean in a pattern. So it stops every repetition of a
group in which something is repeated, as long as no closing parenthesis stands in this group. Where one does, it takes
that for the end of the group: a group in a group that is repeated is searched with, and so is everything that is put
into a second pair of parentheses before it is repeated.
-/

namespace Obligations.Pattern

open Obligations.Text

/-! ## Rows of characters -/

/-- Whether a text has a group that is repeated, with a repetition in it, as far as its characters tell: the group
reaches from an opening parenthesis to the next closing one, and white space may stand behind it. -/
def RepeatsGroup (chars : List Char) : Prop :=
  ∃ front inside blanks sign rest, chars = front ++ '(' :: (inside ++ ')' :: (blanks ++ sign :: rest)) ∧
    ')' ∉ inside ∧ inside.any isRepetition = true ∧ (∀ c ∈ blanks, isBlank c = true) ∧ isRepetition sign = true

/-- Whether a text has one of the rows of characters that are not searched with. -/
def IsDangerous (chars : List Char) : Prop :=
  RepeatsGroup chars ∨ ['.', '*', '+'] <:+: chars ∨ ['+', '+'] <:+: chars ∨ ['*', '*'] <:+: chars

section Rows

variable {chars : List Char}

theorem isBlank_of_isRepetition {c : Char} (repetition : isRepetition c = true) : isBlank c = false := by
  simp only [isRepetition, Bool.or_eq_true, beq_iff_eq] at repetition
  rcases repetition with rfl | rfl <;> decide

theorem startsWithRepetition_iff : startsWithRepetition chars = true ↔
    ∃ blanks sign rest, chars = blanks ++ sign :: rest ∧ (∀ c ∈ blanks, isBlank c = true) ∧
      isRepetition sign = true := by
  rw [startsWithRepetition, trimLeft]
  constructor
  · intro starts
    have whole := List.takeWhile_append_dropWhile (p := isBlank) (l := chars)
    split at starts
    next sign rest dropped =>
      rw [dropped] at whole
      exact ⟨_, sign, rest, whole.symm, fun c listed => List.mem_takeWhile_imp listed, starts⟩
    next => cases starts
  · rintro ⟨blanks, sign, rest, rfl, blank, repetition⟩
    rw [List.dropWhile_append_of_pos blank, List.dropWhile_cons_of_neg (by simp [isBlank_of_isRepetition repetition])]
    exact repetition

theorem span_closing {inside tail : List Char} (without : ')' ∉ inside) :
    (inside ++ ')' :: tail).span (· != ')') = (inside, ')' :: tail) := by
  have all : ∀ c ∈ inside, (c != ')') = true := fun c listed => bne_iff_ne.mpr fun same => without (same ▸ listed)
  rw [List.span_eq_takeWhile_dropWhile, List.takeWhile_append_of_pos all, List.dropWhile_append_of_pos all]
  simp

theorem isRepeatedGroup_append {inside tail : List Char} (without : ')' ∉ inside) :
    isRepeatedGroup (inside ++ ')' :: tail) = (inside.any isRepetition && startsWithRepetition tail) := by
  rw [isRepeatedGroup, span_closing without]

theorem isRepeatedGroup_of_notMem (without : ')' ∉ chars) : isRepeatedGroup chars = false := by
  have all : ∀ c ∈ chars, (c != ')') = true := fun c listed => bne_iff_ne.mpr fun same => without (same ▸ listed)
  rw [isRepeatedGroup, List.span_eq_takeWhile_dropWhile, List.dropWhile_eq_nil_iff.mpr all]

theorem isRepeatedGroup_iff : isRepeatedGroup chars = true ↔
    ∃ inside tail, chars = inside ++ ')' :: tail ∧ ')' ∉ inside ∧ inside.any isRepetition = true ∧
      startsWithRepetition tail = true := by
  constructor
  · intro repeated
    have closed : ')' ∈ chars := by
      by_contra without
      rw [isRepeatedGroup_of_notMem without] at repeated
      cases repeated
    obtain ⟨inside, tail, rfl, without⟩ := List.eq_append_cons_of_mem closed
    rw [isRepeatedGroup_append without, Bool.and_eq_true] at repeated
    exact ⟨inside, tail, rfl, without, repeated⟩
  · rintro ⟨inside, tail, rfl, without, repeated⟩
    rw [isRepeatedGroup_append without, Bool.and_eq_true]
    exact repeated

theorem startsUnsafe_iff : startsUnsafe chars = true ↔
    (∃ inside, chars = '(' :: inside ∧ isRepeatedGroup inside = true) ∨
      ['.', '*', '+'] <+: chars ∨ ['+', '+'] <+: chars ∨ ['*', '*'] <+: chars := by
  unfold startsUnsafe
  split
  next inside => simp
  next => simp
  next => simp
  next => simp
  next parenthesis adjacent plus star =>
    simp only [Bool.false_eq_true, false_iff, not_or, not_exists, not_and]
    refine ⟨fun inside same => absurd same (parenthesis inside), ?_, ?_, ?_⟩
    · rintro ⟨rest, rfl⟩
      exact adjacent rest rfl
    · rintro ⟨rest, rfl⟩
      exact plus rest rfl
    · rintro ⟨rest, rfl⟩
      exact star rest rfl

/-- A text is unsafe if one of its tails starts with something dangerous. -/
theorem isUnsafe_iff_exists :
    isUnsafe chars = true ↔ ∃ front rest, chars = front ++ rest ∧ startsUnsafe rest = true := by
  induction chars with
  | nil =>
    refine iff_of_false Bool.false_ne_true ?_
    rintro ⟨front, rest, split, starts⟩
    obtain ⟨-, rfl⟩ := List.append_eq_nil_iff.mp split.symm
    cases starts
  | cons c chars ih =>
    rw [isUnsafe, Bool.or_eq_true, ih]
    constructor
    · rintro (starts | ⟨front, rest, rfl, starts⟩)
      · exact ⟨[], _, rfl, starts⟩
      · exact ⟨c :: front, rest, rfl, starts⟩
    · rintro ⟨_ | ⟨first, front⟩, rest, split, starts⟩
      · exact .inl (split ▸ starts)
      · obtain ⟨-, rfl⟩ := List.cons.inj split
        exact .inr ⟨front, rest, rfl, starts⟩

theorem repeatsGroup_iff : RepeatsGroup chars ↔
    ∃ front inside, chars = front ++ '(' :: inside ∧ isRepeatedGroup inside = true := by
  constructor
  · rintro ⟨front, inside, blanks, sign, rest, rfl, without, repeats, blank, repetition⟩
    refine ⟨front, _, rfl, isRepeatedGroup_iff.mpr ⟨inside, _, rfl, without, repeats, ?_⟩⟩
    exact startsWithRepetition_iff.mpr ⟨blanks, sign, rest, rfl, blank, repetition⟩
  · rintro ⟨front, behind, rfl, repeated⟩
    obtain ⟨inside, tail, rfl, without, repeats, starts⟩ := isRepeatedGroup_iff.mp repeated
    obtain ⟨blanks, sign, rest, rfl, blank, repetition⟩ := startsWithRepetition_iff.mp starts
    exact ⟨front, inside, blanks, sign, rest, rfl, without, repeats, blank, repetition⟩

theorem infix_iff_exists_prefix {row : List Char} :
    row <:+: chars ↔ ∃ front rest, chars = front ++ rest ∧ row <+: rest := by
  constructor
  · rintro ⟨front, rest, rfl⟩
    exact ⟨front, row ++ rest, List.append_assoc .., List.prefix_append row rest⟩
  · rintro ⟨front, _, rfl, rest, rfl⟩
    exact ⟨front, rest, List.append_assoc ..⟩

/-- The guard stops the texts that have one of the rows of characters. -/
theorem isUnsafe_iff : isUnsafe chars = true ↔ IsDangerous chars := by
  simp only [isUnsafe_iff_exists, IsDangerous, repeatsGroup_iff, infix_iff_exists_prefix, startsUnsafe_iff, and_or_left,
    exists_or]
  refine or_congr_left ⟨?_, ?_⟩
  · rintro ⟨front, _, rfl, inside, rfl, repeated⟩
    exact ⟨front, inside, rfl, repeated⟩
  · rintro ⟨front, inside, rfl, repeated⟩
    exact ⟨front, _, rfl, inside, rfl, repeated⟩

end Rows

/-! ## Patterns in parts -/

/-- A part of the text of a pattern: a character by itself, one behind a backslash, a set in brackets, or a group in
parentheses. -/
inductive Part where
  | plain (c : Char)
  | escaped (c : Char)
  | set (inside : List Char)
  | group (inside : List Part)

namespace Part

mutual

def chars : Part → List Char
  | .plain c => [c]
  | .escaped c => ['\\', c]
  | .set inside => '[' :: (inside ++ [']'])
  | .group inside => '(' :: (charsOf inside ++ [')'])

def charsOf : List Part → List Char
  | [] => []
  | part :: rest => part.chars ++ charsOf rest

end

/-- Whether no closing bracket ends a set before the end of a text, unless a backslash stands before it. -/
def staysOpen : List Char → Bool
  | [] => true
  | '\\' :: _ :: rest => staysOpen rest
  | c :: rest => c != '\\' && c != ']' && staysOpen rest

/-- Whether a text is the inside of a set. Behind the sign that turns a set round, the first character belongs to it,
be it a closing bracket. -/
def isSetInside (inside : List Char) : Bool :=
  match (if inside.head? = some '^' then inside.tail else inside) with
  | [] => false
  | ']' :: rest => staysOpen rest
  | members => staysOpen members

mutual

/-- Whether a part is what its characters say: nothing begins or ends in the place of a plain character. -/
def isProper : Part → Bool
  | .plain c => !(['\\', '[', '(', ')'].contains c)
  | .escaped _ => true
  | .set inside => isSetInside inside
  | .group inside => areProper inside

def areProper : List Part → Bool
  | [] => true
  | part :: rest => part.isProper && areProper rest

end

mutual

/-- Whether something is repeated in a part, however deep. -/
def repeats : Part → Bool
  | .plain c => isRepetition c
  | .escaped _ | .set _ => false
  | .group inside => anyRepeats inside

def anyRepeats : List Part → Bool
  | [] => false
  | part :: rest => part.repeats || anyRepeats rest

end

/-- Whether a group with a given inside is repeated in parts, however deep. -/
inductive RepeatsGroupOf (inside : List Part) : List Part → Prop
  | here (front rest : List Part) {sign : Char} (repetition : isRepetition sign = true) :
      RepeatsGroupOf inside (front ++ .group inside :: .plain sign :: rest)
  | within (front rest : List Part) {outer : List Part} (deeper : RepeatsGroupOf inside outer) :
      RepeatsGroupOf inside (front ++ .group outer :: rest)

theorem charsOf_append (front rest : List Part) : charsOf (front ++ rest) = charsOf front ++ charsOf rest := by
  induction front with
  | nil => rfl
  | cons part front ih => rw [List.cons_append, charsOf, charsOf, ih, List.append_assoc]

mutual

theorem any_chars_of_repeats : (part : Part) → part.repeats = true → part.chars.any isRepetition = true
  | .plain c, own => by simpa [chars, repeats] using own
  | .group inside, own => by
    have deeper := any_charsOf_of_anyRepeats inside (by simpa [repeats] using own)
    simp [chars, deeper]

theorem any_charsOf_of_anyRepeats : (parts : List Part) → anyRepeats parts = true →
    (charsOf parts).any isRepetition = true
  | part :: rest, own => by
    rw [anyRepeats, Bool.or_eq_true] at own
    rw [charsOf, List.any_append, Bool.or_eq_true]
    exact own.imp (any_chars_of_repeats part) (any_charsOf_of_anyRepeats rest)

end

theorem RepeatsGroupOf.exists_split {inside parts : List Part} (repeated : RepeatsGroupOf inside parts) :
    ∃ front sign rest, charsOf parts = front ++ '(' :: (charsOf inside ++ ')' :: sign :: rest) ∧
      isRepetition sign = true := by
  induction repeated with
  | here front rest repetition =>
    refine ⟨charsOf front, _, charsOf rest, ?_, repetition⟩
    simp [charsOf_append, charsOf, chars]
  | within front rest _ ih =>
    obtain ⟨before, sign, behind, split, repetition⟩ := ih
    refine ⟨charsOf front ++ '(' :: before, sign, behind ++ ')' :: charsOf rest, ?_, repetition⟩
    simp [charsOf_append, charsOf, chars, split]

end Part

open Obligations.Pattern.Part

/-- Whether a group with a given inside is repeated in the text of a pattern, and something in this group is, too. -/
def NestsRepetition (inside : List Part) (text : List Char) : Prop :=
  ∃ parts, areProper parts = true ∧ charsOf parts = text ∧ RepeatsGroupOf inside parts ∧ anyRepeats inside = true

/-- A repetition in a group that is repeated is dangerous as long as no closing parenthesis stands in the group. -/
theorem NestsRepetition.isDangerous {inside : List Part} {text : List Char} (nests : NestsRepetition inside text)
    (flat : ')' ∉ charsOf inside) : IsDangerous text := by
  obtain ⟨parts, -, rfl, repeated, own⟩ := nests
  obtain ⟨front, sign, rest, split, repetition⟩ := repeated.exists_split
  have listed := any_charsOf_of_anyRepeats inside own
  exact .inl ⟨front, charsOf inside, [], sign, rest, split, flat, listed, by simp, repetition⟩

/-! ## Groups in groups -/

section Closing

variable {front tail : List Char}

/-- White space and repetitions are looked for no further than up to a closing parenthesis. -/
theorem startsWithRepetition_closing (front behind : List Char) :
    startsWithRepetition (front ++ ')' :: behind) = startsWithRepetition (front ++ [')']) := by
  induction front with
  | nil => rfl
  | cons c front ih =>
    rw [List.cons_append, List.cons_append, startsWithRepetition, startsWithRepetition]
    cases blank : isBlank c with
    | true =>
      rw [trimLeft_cons_of_blank blank, trimLeft_cons_of_blank blank]
      exact ih
    | false => rw [trimLeft_cons_of_not_blank blank, trimLeft_cons_of_not_blank blank]

/-- What a group comes to that ends in a text with a further closing parenthesis behind it does not depend on what
comes behind that. -/
theorem isRepeatedGroup_closing (front tail behind : List Char) :
    isRepeatedGroup (front ++ ')' :: (tail ++ ')' :: behind)) = isRepeatedGroup (front ++ ')' :: (tail ++ [')'])) := by
  obtain ⟨inside, rest, split, without⟩ := List.eq_append_cons_of_mem (show ')' ∈ front ++ [')'] by simp)
  have cut (more : List Char) : front ++ ')' :: more = inside ++ ')' :: (rest ++ more) := by
    simpa using congrArg (· ++ more) split
  rw [cut, cut, isRepeatedGroup_append without, isRepeatedGroup_append without, ← List.append_assoc,
    ← List.append_assoc, startsWithRepetition_closing (rest ++ tail) behind]

theorem startsUnsafe_closing {c : Char} (plain : c ≠ '(') (front behind : List Char) :
    startsUnsafe (c :: (front ++ ')' :: behind)) = startsUnsafe (c :: (front ++ [')'])) := by
  rw [Bool.eq_iff_iff, startsUnsafe_iff, startsUnsafe_iff]
  rcases front with _ | ⟨second, _ | ⟨third, front⟩⟩ <;> simp [plain, List.cons_prefix_cons]

/-- Behind a closing parenthesis the guard looks for what it stops from anew, where no parenthesis has been opened. -/
theorem isUnsafe_closing (plain : '(' ∉ tail) (behind : List Char) :
    isUnsafe (tail ++ ')' :: behind) = (isUnsafe (tail ++ [')']) || isUnsafe behind) := by
  induction tail with
  | nil => rfl
  | cons c tail ih =>
    obtain ⟨first, others⟩ := not_or.mp (mt List.mem_cons.mpr plain)
    rw [List.cons_append, List.cons_append, isUnsafe, isUnsafe, ih others,
      startsUnsafe_closing (Ne.symm first) tail behind, Bool.or_assoc]

/-- Behind the end of a group that has a group in it the guard looks for what it stops from anew. -/
theorem isUnsafe_closing_closing (plain : '(' ∉ tail) (front behind : List Char) :
    isUnsafe (front ++ ')' :: (tail ++ ')' :: behind)) =
      (isUnsafe (front ++ ')' :: (tail ++ [')'])) || isUnsafe behind) := by
  induction front with
  | nil => exact isUnsafe_closing plain behind
  | cons c front ih =>
    have first : startsUnsafe (c :: (front ++ ')' :: (tail ++ ')' :: behind))) =
        startsUnsafe (c :: (front ++ ')' :: (tail ++ [')']))) := by
      by_cases opening : c = '('
      · rw [opening]
        exact isRepeatedGroup_closing front tail behind
      · rw [startsUnsafe_closing opening, startsUnsafe_closing opening front (tail ++ [')'])]
    rw [List.cons_append, List.cons_append, isUnsafe, isUnsafe, ih, first, Bool.or_assoc]

theorem isUnsafe_sign_cons {sign : Char} (repetition : isRepetition sign = true) (rest : List Char) :
    isUnsafe (sign :: rest) = true ↔ isUnsafe rest = true ∨ rest.head? = some sign := by
  rw [isUnsafe, Bool.or_eq_true, or_comm, startsUnsafe_iff]
  refine or_congr_right ?_
  simp only [isRepetition, Bool.or_eq_true, beq_iff_eq] at repetition
  rcases repetition with rfl | rfl <;> cases rest <;> simp <;> exact eq_comm

/-- Whether a group that has a group in it is repeated makes no difference to the guard, but for a second sign behind
the first one. -/
theorem isDangerous_sign_iff {sign : Char} (repetition : isRepetition sign = true) (plain : '(' ∉ tail)
    (front rest : List Char) :
    IsDangerous (front ++ ')' :: (tail ++ ')' :: sign :: rest)) ↔
      IsDangerous (front ++ ')' :: (tail ++ ')' :: rest)) ∨ rest.head? = some sign := by
  rw [← isUnsafe_iff, ← isUnsafe_iff, isUnsafe_closing_closing plain, isUnsafe_closing_closing plain front rest,
    Bool.or_eq_true, Bool.or_eq_true, isUnsafe_sign_cons repetition, or_assoc]

end Closing

/-! ## Searching -/

/-- The answer to a search with a dangerous pattern. -/
def refusal (field : String) : Outcome Bool :=
  Comparison.regex.failAt field "Regex pattern contains potentially dangerous constructs"

theorem message_of_failAt {comparison : Comparison} {field message other : String}
    (same : comparison.failAt (α := Bool) field message = comparison.failAt field other) : message = other := by
  have told := congrArg (fun outcome : Outcome Bool => match outcome with
    | .error problem => problem.message
    | .ok _ => "") same
  exact told

/-- A pattern that is not too long is searched with unless it is dangerous. -/
theorem searchPattern_eq_refusal_iff {pattern : String} (short : pattern.toList.length ≤ lengthLimit)
    (field content : String) :
    Comparison.searchPattern field pattern content = refusal field ↔ IsDangerous pattern.toList := by
  rw [Comparison.searchPattern, ← isUnsafe_iff]
  dsimp only
  rw [if_neg (Nat.not_lt.mpr short)]
  split
  next dangerous => exact iff_of_true rfl dangerous
  next sound =>
    refine iff_of_false (fun same => ?_) sound
    split at same
    next => cases same
    next kind position _ =>
      have told := congrArg (·.toList.head?) (message_of_failAt same)
      rw [String.toList_append] at told
      cases told
    next => cases same

/-- Which of the patterns that are not too long are refused. These are the ones with certain characters in a row. A
pattern with a group that is repeated, and in which something is repeated, is always refused if no closing parenthesis
stands in the group. If one does, and no opening one stands behind it, the pattern is refused exactly if it would be
without the sign that repeats the group, but for a second such sign behind the first one. A value that cannot be printed
is searched with no pattern at all. -/
theorem regex_refuses (field : String) {operand : Value} {pattern : String} (written : operand.shown? = some pattern)
    (short : pattern.toList.length ≤ lengthLimit) (actual : Value) :
    (actual.isPrintable = false → Comparison.regex.holds field actual operand = .mishap .unprintable) ∧
    (actual.isPrintable = true →
      (Comparison.regex.holds field actual operand = refusal field ↔ IsDangerous pattern.toList) ∧
      (∀ inside, NestsRepetition inside pattern.toList → ')' ∉ charsOf inside →
        Comparison.regex.holds field actual operand = refusal field) ∧
      ∀ (front inside tail rest : List Char) (sign : Char), isRepetition sign = true → '(' ∉ tail →
        pattern.toList = front ++ '(' :: (inside ++ ')' :: (tail ++ ')' :: sign :: rest)) →
        (Comparison.regex.holds field actual operand = refusal field ↔
          IsDangerous (front ++ '(' :: (inside ++ ')' :: (tail ++ ')' :: rest))) ∨ rest.head? = some sign)) := by
  obtain ⟨printable, rfl⟩ := Value.shown?_eq_some.mp written
  constructor
  · intro unprintable
    rw [Comparison.holds, written, Value.shown?, unprintable]
    rfl
  intro printableToo
  have refused : Comparison.regex.holds field actual operand = refusal field ↔ IsDangerous operand.shown.toList := by
    rw [Comparison.holds_regex field printableToo printable]
    exact searchPattern_eq_refusal_iff short field actual.shown
  refine ⟨refused, fun inside nests flat => refused.mpr (nests.isDangerous flat), ?_⟩
  intro front inside tail rest sign repetition plain same
  rw [refused, same]
  simpa using isDangerous_sign_iff repetition plain (front ++ '(' :: inside) rest

def repeatedGroup : List Part :=
  [.plain 'a', .plain '+']

theorem nestsRepetition_repeatedGroup : NestsRepetition repeatedGroup "(a+)+".toList :=
  ⟨[.group repeatedGroup, .plain '+'], by decide, by decide, .here [] [] (by decide), by decide⟩

/-- A repetition in a group that is repeated is refused. With one more pair of parentheses in between it is not, since it
would not be without the second repetition. -/
theorem regex_refuses_repeatedGroup :
    ((Value.text "(a+)+").shown? = some "(a+)+" ∧ "(a+)+".toList.length ≤ lengthLimit) ∧
      ((Value.text "((a+))+").shown? = some "((a+))+" ∧ "((a+))+".toList.length ≤ lengthLimit) ∧
      Comparison.regex.holds "name" (.text "aaab") (.text "(a+)+") = refusal "name" ∧
      Comparison.regex.holds "name" (.text "aaab") (.text "((a+))+") ≠ refusal "name" := by
  have shortFlat : "(a+)+".toList.length ≤ lengthLimit := by decide
  have shortDeep : "((a+))+".toList.length ≤ lengthLimit := by decide
  have written (pattern : String) : (Value.text pattern).shown? = some pattern := Value.shown?_of_isPrintable rfl
  obtain ⟨-, flat, -⟩ := (regex_refuses "name" (written "(a+)+") shortFlat (.text "aaab")).2 rfl
  obtain ⟨-, -, deep⟩ := (regex_refuses "name" (written "((a+))+") shortDeep (.text "aaab")).2 rfl
  refine ⟨⟨written _, shortFlat⟩, ⟨written _, shortDeep⟩,
    flat repeatedGroup nestsRepetition_repeatedGroup (by decide), fun refused => ?_⟩
  have stopped := (deep "(".toList "a+".toList [] [] '+' (by decide) (by decide) (by decide)).mp refused
  rcases stopped with stopped | second
  · rw [← isUnsafe_iff] at stopped
    revert stopped
    decide
  · cases second

/-- A pattern with a repetition in a group that is repeated, with a group around it, is searched with. -/
theorem regex_searches_doubledGroup :
    NestsRepetition [.group repeatedGroup] "((a+))+".toList ∧ "((a+))+".toList.length ≤ lengthLimit ∧
      Comparison.regex.holds "name" (.text "aaab") (.text "((a+))+") = .ok true := by
  refine ⟨⟨[.group [.group repeatedGroup], .plain '+'], by decide, by decide, .here [] [] (by decide), by decide⟩,
    by decide, Outcome.toOption_eq_some.mp (by decide +kernel)⟩

end Obligations.Pattern
