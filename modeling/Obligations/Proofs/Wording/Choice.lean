import Obligations.Proofs.Wording.Literal
import Obligations.Proofs.Wording.Substitution
import Obligations.Subject.Form

/-! # How comparisons are read

A choice compares a field with a literal. The sign between them is looked for in the whole condition, one comparison
after the other, and not only outside of quotes. So a condition is read as it is written as long as no sign that is
looked for earlier stands inside the quotes of its literal. Where one does, the condition is cut there: what stands
before it, with the sign and the quote that were meant, is taken for the path of a field.
-/

namespace Obligations.Value

open Obligations.Text

/-- A record in which a path leads to a value. -/
def along : List String → Value → Value
  | [], value => value
  | key :: keys, value => .map [(key, along keys value)]

theorem follow_along (keys : List String) (content : String) :
    (along keys (.text content)).follow keys = .text content := by
  induction keys with
  | nil => rfl
  | cons key keys ih =>
    have found : (along (key :: keys) (.text content)).get? key = some (along keys (.text content)) := by
      simp [along, get?, member?]
    rw [follow, found]
    cases keys <;> exact ih

theorem atPath_null (path : String) : null.atPath path = .null := by
  rw [atPath]
  cases (pieces '.' path.toList).map String.ofList <;> rfl

/-- A path that turns aside leads nowhere. -/
theorem follow_along_of_ne {last other : String} (turns : other ≠ last) (before behind : List String)
    (content : String) :
    (along (before ++ [last]) (.text content)).follow (before ++ other :: behind) = .null := by
  induction before with
  | nil =>
    have missing : (along [last] (.text content)).get? other = none := by
      simp [along, get?, member?, turns]
    rw [List.nil_append, List.nil_append, follow, missing]
  | cons key before ih =>
    have found : (along (key :: (before ++ [last])) (.text content)).get? key =
        some (along (before ++ [last]) (.text content)) := by
      simp [along, get?, member?]
    rw [List.cons_append, List.cons_append, follow, found]
    cases before <;> exact ih

end Obligations.Value

namespace Obligations.Wording

open Obligations.Calendar Obligations.Number Obligations.Text

namespace Relation

variable {relation other first : Relation}

/-- The comparisons that are looked for before one. -/
def earlier (relation : Relation) : List Relation :=
  all.takeWhile (· != relation)

theorem exists_later (relation : Relation) : ∃ later, all = relation.earlier ++ relation :: later := by
  cases relation <;> exact ⟨_, rfl⟩

theorem earlier_eq {before later : List Relation} (split : all = before ++ relation :: later) :
    relation.earlier = before := by
  have distinct : (before ++ relation :: later).Nodup := split ▸ (by decide : all.Nodup)
  have others : ∀ first ∈ before, (first != relation) = true := fun first listed =>
    bne_iff_ne.mpr (List.nodup_append.mp distinct |>.2.2 first listed relation List.mem_cons_self)
  rw [earlier, split, List.takeWhile_append_of_pos others, List.takeWhile_cons_of_neg (by simp), List.append_nil]

theorem earlier_trans : other ∈ relation.earlier → first ∈ other.earlier → first ∈ relation.earlier := by
  cases relation <;> cases other <;> cases first <;> decide

/-- No sign has one in it that is looked for earlier. -/
theorem cutAt?_sign : other ∈ relation.earlier → cutAt? other.sign.toList relation.sign.toList = none := by
  cases relation <;> cases other <;> decide

end Relation

section Cutting

variable {relation other : Relation} {head middle inside tail left right : List Char}

/-- Signs are looked for behind characters that have no part in them. -/
theorem cutAt?_silent_append (silent : IsSilent head) (relation : Relation) (chars : List Char) :
    cutAt? relation.sign.toList (head ++ chars) =
      (cutAt? relation.sign.toList chars).map fun (before, after) => (head ++ before, after) := by
  obtain ⟨p, part, same⟩ := List.exists_cons_of_ne_nil relation.sign_ne_nil
  rw [same]
  exact cutAt?_append_of_notMem (fun listed => silent p listed (Relation.mem_signs (same ▸ List.mem_cons_self))) _ _

theorem cutAt?_silent (silent : IsSilent head) (relation : Relation) : cutAt? relation.sign.toList head = none := by
  have whole := cutAt?_silent_append silent relation []
  rwa [List.append_nil, cutAt?, if_neg (by simpa using relation.sign_ne_nil)] at whole

/-- Signs are looked for before characters that have no part in them. -/
theorem cutAt?_append_silent (silent : IsSilent tail) (relation : Relation) (chars : List Char) :
    cutAt? relation.sign.toList (chars ++ tail) =
      (cutAt? relation.sign.toList chars).map fun (before, after) => (before, after ++ tail) := by
  cases tail with
  | nil => simp
  | cons c rest =>
    obtain ⟨first, others⟩ := List.forall_mem_cons.mp silent
    have absent : c ∉ relation.sign.toList := fun listed => first (Relation.mem_signs listed)
    rw [cutAt?_append_cons relation.sign_ne_nil absent, cutAt?_silent others, Option.map_none, Option.or_none]

/-- The sign of a comparison is found where it stands. -/
theorem cutAt?_own (silent : IsSilent head) (relation : Relation) (rest : List Char) :
    cutAt? relation.sign.toList (head ++ (relation.sign.toList ++ rest)) = some (head, rest) := by
  rw [cutAt?_silent_append silent, cutAt?_self_append]
  simp

/-- A sign that is looked for earlier is found only behind the one that was meant. -/
theorem cutAt?_earlier (before : other ∈ relation.earlier) (silent : IsSilent head) (quiet : IsSilent middle)
    (given : middle ≠ []) (hushed : IsSilent tail) :
    cutAt? other.sign.toList (head ++ (relation.sign.toList ++ (middle ++ (inside ++ tail)))) =
      (cutAt? other.sign.toList inside).map fun (front, back) =>
        (head ++ (relation.sign.toList ++ (middle ++ front)), back ++ tail) := by
  obtain ⟨c, rest, rfl⟩ := List.exists_cons_of_ne_nil given
  obtain ⟨first, others⟩ := List.forall_mem_cons.mp quiet
  have absent : c ∉ other.sign.toList := fun listed => first (Relation.mem_signs listed)
  rw [cutAt?_silent_append silent, List.cons_append, cutAt?_append_cons other.sign_ne_nil absent,
    Relation.cutAt?_sign before, Option.map_none, Option.none_or, cutAt?_silent_append others,
    cutAt?_append_silent hushed]
  simp [Function.comp_def]

/-- A condition is cut at the first comparison of which the sign is found in it. -/
theorem cut?_of_first {chars : List Char}
    (none : ∀ first ∈ relation.earlier, cutAt? first.sign.toList chars = none)
    (found : cutAt? relation.sign.toList chars = some (left, right)) :
    Test.cut? chars = some (relation, left, right) := by
  obtain ⟨later, split⟩ := relation.exists_later
  rw [Test.cut?, List.findSome?_eq_some_iff]
  exact ⟨_, _, _, split, by rw [found]; rfl, fun first listed => by rw [none first listed]; rfl⟩

end Cutting

/-- Whether a character may stand in a path of a choice, as letters, digits, underscores and dots may. -/
def IsInPath (c : Char) : Prop :=
  isBlank c = false ∧ c ∉ Relation.signs ∧ IsInPart c

instance (c : Char) : Decidable (IsInPath c) :=
  inferInstanceAs (Decidable (_ ∧ _ ∧ _))

/-- Plain letters and digits are of plain ASCII. -/
theorem toNat_lt_of_isAlphanum {c : Char} (plain : c.isAlphanum = true) : c.toNat < 128 := by
  have bounded {last : Char} (within : c.val ≤ last.val) (low : last.toNat < 128) : c.toNat < 128 :=
    Nat.lt_of_le_of_lt (UInt32.le_iff_toNat_le.mp within) low
  have kinds : ((c.isUpper || c.isLower) || c.isDigit) = true := plain
  rw [Bool.or_eq_true, Bool.or_eq_true] at kinds
  rcases kinds with (upper | lower) | digit
  · have within : 'A'.val ≤ c.val ∧ c.val ≤ 'Z'.val := of_decide_eq_true upper
    exact bounded within.2 (by decide)
  · have within := (Bool.and_eq_true_iff.mp lower).2
    exact bounded (of_decide_eq_true within) (by decide)
  · exact Nat.lt_of_le_of_lt (toNat_bounds_of_isDigit digit).2 (by decide)

/-- Plain letters, digits, underscores and dots may stand in a path. -/
theorem isInPath_of_isAlphanum {c : Char} (named : c.isAlphanum = true ∨ c = '_' ∨ c = '.') : IsInPath c := by
  rcases named with plain | rfl | rfl
  · have all : ∀ n < 128, (Char.ofNat n).isAlphanum = true → IsInPath (Char.ofNat n) := by decide
    have own := all c.toNat (toNat_lt_of_isAlphanum plain)
    rw [Char.ofNat_toNat] at own
    exact own plain
  · decide
  · decide

/-- A choice by a comparison as it is written: the path of a field, a sign, a literal, and two texts. -/
structure Comparing where
  path : List Char
  relation : Relation
  literal : Literal
  whenTrue : List Char
  whenFalse : List Char
  /-- The white space before the sign. -/
  before : List Char := [' ']
  /-- The white space behind the sign. -/
  behind : List Char := [' ']
  named : path ≠ []
  plain : ∀ c ∈ path, IsInPath c
  blankBefore : ∀ c ∈ before, isBlank c = true
  blankBehind : ∀ c ∈ behind, isBlank c = true
  whole : ∀ c ∈ whenTrue ++ whenFalse, IsInPart c

namespace Comparing

variable (written : Comparing)

/-- A condition up to the content of the quotes of its literal. -/
def opening : List Char :=
  written.path ++ written.before ++ written.relation.sign.toList ++ written.behind ++ written.literal.opening

def condition : List Char :=
  written.path ++ written.before ++ written.relation.sign.toList ++ written.behind ++ written.literal.chars

/-- The placeholder as it is written. -/
def text : String :=
  note (String.ofList ('?' :: (written.condition ++ ':' :: (written.whenTrue ++ ':' :: written.whenFalse))))

def chosen (holds : Bool) : String :=
  String.ofList (if holds then written.whenTrue else written.whenFalse)

theorem chosen_inj (differ : written.whenTrue ≠ written.whenFalse) {first second : Bool}
    (same : written.chosen first = written.chosen second) : first = second := by
  have texts := String.ofList_inj.mp same
  cases first <;> cases second
  · rfl
  · exact absurd texts.symm differ
  · exact absurd texts differ
  · rfl

theorem condition_eq : written.condition = (written.path ++ written.before) ++ (written.relation.sign.toList ++
    ((written.behind ++ written.literal.opening) ++ (written.literal.inside ++ written.literal.closing))) := by
  simp only [condition, Literal.chars, List.append_assoc]

theorem isInPart_condition : ∀ c ∈ written.condition, IsInPart c := by
  have ofBlank {gap : List Char} (blank : ∀ c ∈ gap, isBlank c = true) : ∀ c ∈ gap, IsInPart c := by
    intro c listed
    have own := blank c listed
    constructor <;> rintro rfl <;> cases own
  have ofSign : ∀ c ∈ written.relation.sign.toList, IsInPart c := by
    cases written.relation <;> decide
  simp only [condition, List.forall_mem_append]
  exact ⟨⟨⟨⟨fun c listed => (written.plain c listed).2.2, ofBlank written.blankBefore⟩, ofSign⟩,
    ofBlank written.blankBehind⟩, written.literal.isInPart_chars⟩

theorem trimChars_condition : trimChars written.condition = written.condition := by
  obtain ⟨c, rest, same⟩ := List.exists_cons_of_ne_nil written.named
  refine trimChars_of_ends ?_ ?_
  · have first : written.condition.head? = some c := by simp [condition, same]
    rw [first]
    rintro _ ⟨⟩
    exact (written.plain c (same ▸ List.mem_cons_self)).1
  · have some : written.literal.chars ≠ [] := List.append_ne_nil_of_left_ne_nil written.literal.opening_ne_nil _
    rw [condition, List.getLast?_append_of_ne_nil _ some]
    exact written.literal.isBlank_getLast?

theorem ofText?_parts : Choice.ofText? (written.condition ++ ':' :: (written.whenTrue ++ ':' :: written.whenFalse)) =
    some ⟨String.ofList written.condition, String.ofList written.whenTrue, String.ofList written.whenFalse⟩ := by
  obtain ⟨ofTrue, ofFalse⟩ := List.forall_mem_append.mp written.whole
  have apart {chars : List Char} (inPart : ∀ c ∈ chars, IsInPart c) : ':' ∉ chars := fun listed =>
    (inPart ':' listed).1 rfl
  rw [Choice.ofText?, pieces_append_cons (apart written.isInPart_condition), pieces_append_cons (apart ofTrue),
    pieces_of_notMem (apart ofFalse)]
  rfl

/-- The placeholder is filled in with the text that its condition chooses. -/
theorem fillIn_text (values : Value) : fillIn values written.text =
    written.chosen ((Test.ofText (String.ofList written.condition)).holds values) := by
  have without : '\x7d' ∉ written.condition ++ ':' :: (written.whenTrue ++ ':' :: written.whenFalse) := by
    have inside := written.isInPart_condition
    obtain ⟨ofTrue, ofFalse⟩ := List.forall_mem_append.mp written.whole
    simp only [List.mem_append, List.mem_cons, not_or]
    exact ⟨fun listed => (inside _ listed).2 rfl, by decide, fun listed => (ofTrue _ listed).2 rfl, by decide,
      fun listed => (ofFalse _ listed).2 rfl⟩
  have parts := written.ofText?_parts
  obtain ⟨c, rest, same⟩ : ∃ c rest,
      written.condition ++ ':' :: (written.whenTrue ++ ':' :: written.whenFalse) = c :: rest :=
    List.exists_cons_of_ne_nil (by simp)
  rw [same] at parts without
  have isOf : (⟨"", [(String.ofList ('?' :: c :: rest), "")]⟩ : Layout).IsOf (note _) :=
    Layout.isOf_note (by simp) (by simpa using without)
  have trimmed : trim (String.ofList written.condition) = String.ofList written.condition := by
    rw [trim, String.toList_ofList, trimChars_condition]
  rw [text, same, isOf.fillIn_eq values]
  simp only [Layout.text, Layout.textOf, String.toList_ofList, Request.ofInside, Request.fill, parts, Choice.chosen,
    trimmed, chosen]
  split <;> simp

/-- A condition does not begin with the sign of absence, so it is told by where it is cut. -/
theorem ofText_condition {relation : Relation} {left right : List Char}
    (cut : Test.cut? written.condition = some (relation, left, right)) :
    Test.ofText (String.ofList written.condition) =
      .related (trim (String.ofList left)) relation (Wording.literal (String.ofList right)) := by
  obtain ⟨c, rest, same⟩ := List.exists_cons_of_ne_nil written.named
  have noBang : c ≠ '!' := by
    rintro rfl
    exact (written.plain _ (same ▸ List.mem_cons_self)).2.1 (by decide)
  rw [Test.ofText, String.toList_ofList]
  split
  next path bang =>
    have first : written.condition.head? = some c := by simp [condition, same]
    rw [bang] at first
    exact absurd (Option.some.inj first).symm noBang
  next => rw [cut]

theorem isSilent_before : IsSilent (written.path ++ written.before) := by
  have path : IsSilent written.path := fun c listed => (written.plain c listed).2.1
  exact path.append (isSilent_of_blank written.blankBefore)

theorem isSilent_behind : IsSilent (written.behind ++ written.literal.opening) :=
  (isSilent_of_blank written.blankBehind).append written.literal.isSilent_opening

/-- Whether the literal has no sign in its quotes that is looked for before the one that is meant. -/
def IsClear : Prop :=
  ∀ other ∈ written.relation.earlier, ¬ other.sign.toList <:+: written.literal.inside

instance : Decidable written.IsClear :=
  inferInstanceAs (Decidable (∀ other ∈ written.relation.earlier, ¬ other.sign.toList <:+: written.literal.inside))

/-- Whether the first sign that is looked for is one inside the quotes, with what stands before and behind it there. -/
structure IsHidden (other : Relation) (front back : List Char) : Prop where
  earlier : other ∈ written.relation.earlier
  first : ∀ first ∈ other.earlier, ¬ first.sign.toList <:+: written.literal.inside
  cut : cutAt? other.sign.toList written.literal.inside = some (front, back)

/-- If signs that are looked for earlier stand inside the quotes, one of them is looked for first. -/
theorem isClear_or_isHidden : written.IsClear ∨ ∃ other front back, written.IsHidden other front back := by
  let occurs (other : Relation) : Bool := (cutAt? other.sign.toList written.literal.inside).isSome
  have absent {other : Relation} (missing : occurs other = false) :
      ¬ other.sign.toList <:+: written.literal.inside :=
    (cutAt?_eq_none_iff other.sign_ne_nil).mp (Option.isSome_eq_false_iff.mp missing |> Option.isNone_iff_eq_none.mp)
  cases found : written.relation.earlier.find? occurs with
  | none =>
    exact .inl fun other earlier => absent (by simpa using List.find?_eq_none.mp found other earlier)
  | some other =>
    obtain ⟨here, before, behind, split, none⟩ := List.find?_eq_some_iff_append.mp found
    obtain ⟨⟨front, back⟩, cut⟩ := Option.isSome_iff_exists.mp here
    obtain ⟨later, whole⟩ := written.relation.exists_later
    rw [split, List.append_assoc, List.cons_append] at whole
    refine .inr ⟨other, front, back, List.mem_of_find?_eq_some found, fun first listed => absent ?_, cut⟩
    rw [Relation.earlier_eq whole] at listed
    simpa using none first listed

/-- Signs are hidden by quotes only. -/
theorem IsHidden.exists_quote {other : Relation} {front back : List Char} (hidden : written.IsHidden other front back) :
    ∃ quote : Quote, written.literal.opening = [quote.char] ∧ written.literal.inside ≠ [] ∧
      written.literal.value = .text (String.ofList written.literal.inside) := by
  have some : written.literal.inside ≠ [] := by
    intro empty
    have cut := hidden.cut
    rw [empty, cutAt?, if_neg (by simpa using other.sign_ne_nil)] at cut
    cases cut
  cases own : written.literal with
  | quoted quote content within =>
    rw [own] at some
    exact ⟨quote, rfl, some, rfl⟩
  | _ => exact absurd (by rw [own]; rfl) some

/-- A sign that is looked for earlier is found in a condition where it is found inside the quotes. -/
theorem cutAt?_condition {other : Relation} (earlier : other ∈ written.relation.earlier) :
    cutAt? other.sign.toList written.condition =
      (cutAt? other.sign.toList written.literal.inside).map fun (front, back) =>
        (written.opening ++ front, back ++ written.literal.closing) := by
  have given := List.append_ne_nil_of_right_ne_nil written.behind written.literal.opening_ne_nil
  rw [condition_eq, cutAt?_earlier earlier written.isSilent_before written.isSilent_behind given
    written.literal.isSilent_closing]
  simp only [opening, List.append_assoc]

theorem cutAt?_condition_eq_none {other : Relation} (earlier : other ∈ written.relation.earlier)
    (absent : ¬ other.sign.toList <:+: written.literal.inside) :
    cutAt? other.sign.toList written.condition = none := by
  rw [cutAt?_condition written earlier, (cutAt?_eq_none_iff other.sign_ne_nil).mpr absent, Option.map_none]

theorem cut?_of_isClear (clear : written.IsClear) : Test.cut? written.condition =
    some (written.relation, written.path ++ written.before, written.behind ++ written.literal.chars) := by
  refine cut?_of_first (fun other earlier => written.cutAt?_condition_eq_none earlier (clear other earlier)) ?_
  have own := cutAt?_own written.isSilent_before written.relation (written.behind ++ written.literal.chars)
  simpa only [condition, List.append_assoc] using own

theorem cut?_of_isHidden {other : Relation} {front back : List Char} (hidden : written.IsHidden other front back) :
    Test.cut? written.condition = some (other, written.opening ++ front, back ++ written.literal.closing) := by
  refine cut?_of_first (fun first listed => ?_) ?_
  · exact written.cutAt?_condition_eq_none (Relation.earlier_trans hidden.earlier listed) (hidden.first first listed)
  · rw [written.cutAt?_condition hidden.earlier, hidden.cut, Option.map_some]

/-- The path of a field is read without the white space before the sign. -/
theorem trim_path : trim (String.ofList (written.path ++ written.before)) = String.ofList written.path := by
  have around : trimChars ("" ++ String.ofList written.path ++ String.ofList written.before).toList = written.path :=
    trimChars_around (by decide) (by simpa [IsBlank] using written.blankBefore) written.named
      fun c listed => (written.plain c listed).1
  have whole : ("" ++ String.ofList written.path ++ String.ofList written.before).toList =
      written.path ++ written.before := by simp
  rw [whole] at around
  rw [trim, String.toList_ofList, around]

/-- Whether the choice is made as it is written, whatever the values. -/
def IsMadeAsWritten : Prop :=
  ∀ values : Value, fillIn values written.text =
    written.chosen (written.relation.holds (values.atPath (String.ofList written.path)) written.literal.value)

theorem isMadeAsWritten_of_isClear (clear : written.IsClear) : written.IsMadeAsWritten := by
  intro values
  rw [fillIn_text, written.ofText_condition (written.cut?_of_isClear clear), trim_path,
    Literal.literal_chars written.blankBehind]
  rfl

theorem fillIn_of_isHidden {other : Relation} {front back : List Char} (hidden : written.IsHidden other front back)
    (values : Value) : fillIn values written.text =
      written.chosen (other.holds (values.atPath (trim (String.ofList (written.opening ++ front))))
        (Wording.literal (String.ofList (back ++ written.literal.closing)))) := by
  rw [fillIn_text, written.ofText_condition (written.cut?_of_isHidden hidden)]
  rfl

/-- What is taken for the path of a field goes on behind the one that is meant. -/
theorem exists_misread_path {other : Relation} {front back : List Char} (hidden : written.IsHidden other front back) :
    ∃ c rest, c ≠ '.' ∧
      trim (String.ofList (written.opening ++ front)) = String.ofList (written.path ++ c :: rest) := by
  obtain ⟨quote, quoted, -⟩ := hidden.exists_quote
  have sign := written.relation.sign_ne_nil
  obtain ⟨c, rest, same⟩ := List.exists_cons_of_ne_nil (List.append_ne_nil_of_right_ne_nil written.before sign)
  have apart : c ≠ '.' := by
    rintro rfl
    rcases List.mem_append.mp (same ▸ List.mem_cons_self) with blank | sign
    · cases written.blankBefore _ blank
    · exact absurd (Relation.mem_signs sign) (by decide)
  have begins : ∀ first ∈ (written.path ++ (c :: rest ++ written.behind)).head?, isBlank first = false := by
    rw [List.head?_append_of_ne_nil _ written.named]
    exact fun first listed => (written.plain first (List.mem_of_mem_head? listed)).1
  obtain ⟨kept, trimmed⟩ := exists_trimChars_append begins quote.isBlank_char front
  have opened : written.opening ++ front = written.path ++ (c :: rest ++ written.behind) ++ quote.char :: front := by
    rw [opening, quoted, ← same]
    simp only [List.append_assoc, List.singleton_append]
  refine ⟨c, rest ++ (written.behind ++ quote.char :: kept), apart, ?_⟩
  rw [trim, String.toList_ofList, opened, trimmed]
  simp only [List.append_assoc, List.cons_append]

/-- So values in which the path leads somewhere need not have anything at what is taken for it. -/
theorem exists_values (content : String) : ∃ values : Value,
    values.atPath (String.ofList written.path) = .text content ∧
      ∀ c rest, c ≠ '.' → values.atPath (String.ofList (written.path ++ c :: rest)) = .null := by
  refine ⟨.along ((pieces '.' written.path).map String.ofList) (.text content), ?_, fun c rest apart => ?_⟩
  · rw [Value.atPath, String.toList_ofList]
    exact Value.follow_along _ content
  · obtain ⟨before, last, first, behind, own, others, all⟩ := pieces_append '.' written.path (c :: rest)
    have longer : first ≠ [] := by
      rintro rfl
      rw [pieces] at others
      split at others <;> simp [apart] at others
    rw [Value.atPath, String.toList_ofList, own, all]
    simp only [List.map_append, List.map_cons, List.map_nil]
    exact Value.follow_along_of_ne (by simpa [String.ofList_inj] using longer) _ _ content

/-- Only a choice without hidden signs is made as it is written, if there is a choice. -/
theorem isClear_of_isMadeAsWritten (differ : written.whenTrue ≠ written.whenFalse) (all : written.IsMadeAsWritten) :
    written.IsClear := by
  refine written.isClear_or_isHidden.resolve_right ?_
  rintro ⟨other, front, back, hidden⟩
  obtain ⟨c, rest, apart, misread⟩ := written.exists_misread_path hidden
  -- where nothing is at what is taken for the path, the outcome is the same whatever the path leads to
  have taken (values : Value) (nowhere : values.atPath (String.ofList (written.path ++ c :: rest)) = .null) :
      other.holds .null (Wording.literal (String.ofList (back ++ written.literal.closing))) =
        written.relation.holds (values.atPath (String.ofList written.path)) written.literal.value := by
    have same := (written.fillIn_of_isHidden hidden values).symm.trans (all values)
    rw [misread, nowhere] at same
    exact written.chosen_inj differ same
  obtain ⟨quote, -, some, value⟩ := hidden.exists_quote
  obtain ⟨content, differs⟩ := written.relation.exists_holds_ne (mt String.ofList_eq_empty_iff.mp some)
  obtain ⟨values, leads, nowhere⟩ := written.exists_values content
  have present := taken values (nowhere c rest apart)
  have absent := taken .null (Value.atPath_null _)
  rw [leads, value] at present
  rw [Value.atPath_null, value] at absent
  exact differs (present.symm.trans absent)

end Comparing

/-- A choice by a comparison is made as it is written, whatever the values, if no sign that is looked for earlier stands
inside the quotes of its literal, and only then if the two texts differ. If one does, the choice is made by the
comparison of that sign, between what stands before it in the condition, which is taken for the path of a field, and
what stands behind it. A text for a subject is filled in with the values of the subject. -/
theorem isMadeAsWritten_comparing (written : Comparing) :
    (written.IsClear → written.IsMadeAsWritten) ∧
    (written.whenTrue ≠ written.whenFalse → written.IsMadeAsWritten → written.IsClear) ∧
    (¬ written.IsClear → ∃ other front back, written.IsHidden other front back ∧
      ∀ values : Value, fillIn values written.text =
        written.chosen (other.holds (values.atPath (trim (String.ofList (written.opening ++ front))))
          (literal (String.ofList (back ++ written.literal.closing))))) ∧
    ∀ context today values, vocabulary context today = .ok values →
      render written.text context today = .ok (fillIn (.map values) written.text) := by
  refine ⟨written.isMadeAsWritten_of_isClear, written.isClear_of_isMadeAsWritten, fun unclear => ?_,
    fun _ _ _ built => render_of_vocabulary built written.text⟩
  obtain ⟨other, front, back, hidden⟩ := written.isClear_or_isHidden.resolve_left unclear
  exact ⟨other, front, back, hidden, written.fillIn_of_isHidden hidden⟩

def byName (content : List Char) (within : ∀ c ∈ content, IsInPart c) : Comparing where
  path := "name".toList
  relation := .same
  literal := .quoted .single content within
  whenTrue := "yes".toList
  whenFalse := "no".toList
  named := by decide
  plain := fun c listed => isInPath_of_isAlphanum (by revert c; decide)
  blankBefore := by decide
  blankBehind := by decide
  whole := by decide

/-- A subject with a sign in its name. -/
def signed : Context :=
  { subjectId := "s1", name := some "a<b" }

/-- A sign that is looked for later does no harm, and one that is looked for earlier does. -/
theorem isMadeAsWritten_byName :
    ((byName "a!=b".toList (by decide)).text = "\x7b?name == 'a!=b':yes:no\x7d" ∧
      (byName "a!=b".toList (by decide)).IsClear ∧
      fillIn (.map [("name", .text "a!=b")]) (byName "a!=b".toList (by decide)).text = "yes") ∧
    ¬ (byName "a<b".toList (by decide)).IsClear ∧ ¬ (byName "a<b".toList (by decide)).IsMadeAsWritten := by
  have clear : (byName "a!=b".toList (by decide)).IsClear := by decide +kernel
  have unclear : ¬ (byName "a<b".toList (by decide)).IsClear := by decide +kernel
  have made := (isMadeAsWritten_comparing (byName "a!=b".toList (by decide))).1 clear
  have only := (isMadeAsWritten_comparing (byName "a<b".toList (by decide))).2.1 (by decide)
  exact ⟨⟨by decide +kernel, clear, (made (.map [("name", .text "a!=b")])).trans (by decide +kernel)⟩, unclear,
    fun all => unclear (only all)⟩

/-- A name with a sign in it is the one that is asked for, and yet the other text is chosen. -/
theorem render_byName_ne_yes :
    Context.reader (.map [("userId", .text "s1"), ("name", .text "a<b")]) = .ok signed ∧
      (byName "a<b".toList (by decide)).text = "\x7b?name == 'a<b':yes:no\x7d" ∧
      (∃ values, vocabulary signed default = .ok values ∧
        Relation.same.holds ((Value.map values).atPath "name") (.text "a<b") = true) ∧
      render "\x7b?name == 'a<b':yes:no\x7d" signed default = .ok "no" := by
  have decided : (render "\x7b?name == 'a<b':yes:no\x7d" signed default).toOption.any (· == "no") = true := by
    decide +kernel
  obtain ⟨text, rendered, same⟩ := Outcome.exists_of_any decided
  obtain rfl : text = "no" := beq_iff_eq.mp same
  exact ⟨by rfl, by decide +kernel, ⟨_, rfl, by decide +kernel⟩, rendered⟩

end Obligations.Wording
