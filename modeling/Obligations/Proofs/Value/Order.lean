import Obligations.Proofs.Condition.Logic
import Obligations.Proofs.Value.Agreement
import Mathlib.Algebra.Group.Int.Defs

/-! # The order of values

The order of two values is turned round where they change places, whatever they are. There is none where a value that
cannot be printed meets one that is no number, whichever comes first. On the numbers, on the texts, and on the dates and
timestamps the order is a total one, in which values stand at one place exactly if they agree. Values that agree stand at
one place also where they are of different kinds, but for a code and a text that spells it: a code is put in order by its
symbol. The fields of a record are no codes, since a path leads to the text of a code.
-/

namespace Obligations

open Obligations.Calendar Obligations.Number Obligations.Text

instance Number.Place.instTransCmpCompare : Std.TransCmp Place.compare where
  eq_swap {first second} := by
    cases first <;> cases second <;> try rfl
    exact Std.OrientedOrd.eq_swap
  isLE_trans {first second third} low high := by
    cases first <;> cases second <;> cases third <;> simp_all [Place.compare]
    exact Std.TransOrd.isLE_trans low high

instance Calendar.Timestamp.instTransCmpCompare : Std.TransCmp Timestamp.compare :=
  inferInstanceAs (Std.TransCmp (compareOn Timestamp.position))

namespace Value

variable {left right : Value}

def isCode : Value → Bool
  | .visa _ | .phase _ => true
  | _ => false

/-- The order of the moments that two values stand for, if one of them is a date or a timestamp. -/
def momentOrder? (left right : Value) : Option Ordering := do
  guard (left.isTemporal || right.isTemporal)
  return (← left.toStamp?).compare (← right.toStamp?)

/-- The order of two values that is not one of moments. -/
def plainOrder? (left right : Value) : Option Ordering :=
  if left.isNumber && right.isNumber then some ((numberOrder? left right).getD .eq)
  else do return foldedOrder (← left.shown?) (← right.shown?)

theorem order?_eq (left right : Value) : left.order? right = (momentOrder? left right).or (plainOrder? left right) := by
  unfold order?
  extract_lets moments
  rw [show momentOrder? left right = moments from rfl]
  clear_value moments
  cases moments <;> rfl

section Swapping

theorem momentOrder?_eq_swap (left right : Value) :
    momentOrder? right left = (momentOrder? left right).map Ordering.swap := by
  rw [momentOrder?, momentOrder?, Bool.or_comm]
  cases left.isTemporal || right.isTemporal with
  | false => rfl
  | true =>
    cases left.toStamp? with
    | none => cases right.toStamp? <;> rfl
    | some first =>
      cases right.toStamp? with
      | none => rfl
      | some second => exact congrArg some Std.OrientedCmp.eq_swap

theorem numberOrder?_eq_swap (left right : Value) :
    numberOrder? right left = (numberOrder? left right).map Ordering.swap := by
  rw [numberOrder?, numberOrder?]
  cases left.place? with
  | none => cases right.place? <;> rfl
  | some first =>
    cases right.place? with
    | none => rfl
    | some second => exact congrArg some Std.OrientedCmp.eq_swap

theorem plainOrder?_eq_swap (left right : Value) :
    plainOrder? right left = (plainOrder? left right).map Ordering.swap := by
  rw [plainOrder?, plainOrder?, Bool.and_comm]
  cases left.isNumber && right.isNumber with
  | false =>
    rw [if_neg Bool.false_ne_true, if_neg Bool.false_ne_true]
    cases left.shown? with
    | none => cases right.shown? <;> rfl
    | some content =>
      cases right.shown? with
      | none => rfl
      | some other => exact congrArg some Std.OrientedOrd.eq_swap
  | true =>
    rw [if_pos rfl, if_pos rfl, numberOrder?_eq_swap]
    cases numberOrder? left right <;> rfl

/-- The order is turned round where two values change places. -/
theorem order?_eq_swap (left right : Value) : right.order? left = (left.order? right).map Ordering.swap := by
  rw [order?_eq, order?_eq, momentOrder?_eq_swap, plainOrder?_eq_swap]
  cases momentOrder? left right <;> rfl

end Swapping

section Printing

theorem isPrintable_of_toStamp? {moment : Timestamp} (stands : left.toStamp? = some moment) :
    left.isPrintable = true := by
  cases left <;> first | rfl | cases stands

theorem plainOrder?_eq_none_iff : plainOrder? left right = none ↔
    (left.isPrintable = false ∨ right.isPrintable = false) ∧ ¬ (left.isNumber = true ∧ right.isNumber = true) := by
  rw [plainOrder?, shown?, shown?]
  cases left.isPrintable <;> cases right.isPrintable <;> cases left.isNumber <;> cases right.isNumber <;> simp

/-- There is no order exactly where one of the values cannot be printed and one is no number. -/
theorem order?_eq_none_iff : left.order? right = none ↔
    (left.isPrintable = false ∨ right.isPrintable = false) ∧ ¬ (left.isNumber = true ∧ right.isNumber = true) := by
  rw [order?_eq, Option.or_eq_none_iff, plainOrder?_eq_none_iff, and_iff_right_iff_imp]
  rintro ⟨unprintable, -⟩
  rw [momentOrder?]
  -- what stands for a moment can be printed
  rcases unprintable with own | own
  · have stands : left.toStamp? = none :=
      Option.eq_none_iff_forall_ne_some.mpr fun _ stands => absurd (isPrintable_of_toStamp? stands) (by simp [own])
    rw [stands]
    cases left.isTemporal || right.isTemporal <;> rfl
  · have stands : right.toStamp? = none :=
      Option.eq_none_iff_forall_ne_some.mpr fun _ stands => absurd (isPrintable_of_toStamp? stands) (by simp [own])
    rw [stands]
    cases left.isTemporal || right.isTemporal <;> cases left.toStamp? <;> rfl

end Printing

section Agreeing

theorem sameStamp_iff {first second : Option Timestamp} : sameStamp first second = true ↔
    ∃ one other, first = some one ∧ second = some other ∧ one.compare other = .eq := by
  cases first with
  | none => simp [sameStamp]
  | some one =>
    cases second with
    | none => simp [sameStamp]
    | some other => simp [sameStamp, Timestamp.compare]

theorem momentOrder?_of_stamps {one other : Timestamp} (dated : left.isTemporal = true ∨ right.isTemporal = true)
    (first : left.toStamp? = some one) (second : right.toStamp? = some other) :
    momentOrder? left right = some (one.compare other) := by
  rw [momentOrder?, Bool.or_eq_true_iff.mpr dated, first, second]
  rfl

theorem order?_of_areMoment (same : AreMoment left right) : left.order? right = some .eq := by
  obtain ⟨one, other, first, second, agree⟩ := sameStamp_iff.mp same.same
  rw [order?_eq, momentOrder?_of_stamps same.dated first second, Option.some_or, agree]

/-- Where neither of two values is a date or a timestamp, moments have no part in their order. -/
theorem order?_of_undated (first : left.isTemporal = false) (second : right.isTemporal = false) :
    left.order? right = plainOrder? left right := by
  rw [order?_eq, momentOrder?, first, second]
  rfl

theorem order?_of_place? {place other : Place} (first : left.place? = some place)
    (second : right.place? = some other) : left.order? right = some (place.compare other) := by
  have ofPlace {value : Value} {place : Place} (own : value.place? = some place) :
      value.isTemporal = false ∧ value.isNumber = true := by
    cases value <;> first | exact ⟨rfl, rfl⟩ | cases own
  rw [order?_of_undated (ofPlace first).1 (ofPlace second).1, plainOrder?, (ofPlace first).2, (ofPlace second).2,
    numberOrder?, first, second]
  rfl

theorem order?_text (content other : String) :
    (text content).order? (.text other) = some (foldedOrder content other) := by
  rw [order?_of_undated rfl rfl, plainOrder?, shown?_of_isPrintable rfl, shown?_of_isPrintable rfl]
  rfl

theorem foldedOrder_eq_iff {content other : String} :
    foldedOrder content other = .eq ↔ caseFold content = caseFold other :=
  Std.LawfulEqOrd.compare_eq_iff_eq

def codes : List Value :=
  VisaType.all.map .visa ++ Phase.all.map .phase

theorem mem_codes (code : left.isCode = true) : left ∈ codes := by
  cases left with
  | visa own => cases own <;> simp [codes, VisaType.all]
  | phase own => cases own <;> simp [codes, Phase.all]
  | _ => cases code

/-- The text that a text or a code is. -/
def spelling (value : Value) : String :=
  value.asText?.getD ""

theorem toStamp?_of_mem_codes : ∀ code ∈ codes, code.toStamp? = none := by
  decide

theorem caseFold_shown_of_mem_codes : ∀ code ∈ codes, caseFold code.shown ≠ caseFold code.spelling := by
  decide

/-- No two codes are spelled in the same way. -/
theorem nodup_spelling_codes : (codes.map fun code => caseFold code.spelling).Nodup := by
  decide

/-- Whether a value is a text or a code. -/
def IsWord (value : Value) : Prop :=
  value.asText?.isSome = true

theorem IsWord.eq_text (word : left.IsWord) (plain : left.isCode = false) : left = .text left.spelling := by
  cases left with
  | text s => rfl
  | visa | phase => cases plain
  | _ => cases word

theorem order?_of_isWord (first : left.IsWord) (second : right.IsWord) :
    left.order? right = some (foldedOrder left.shown right.shown) := by
  have ofWord {value : Value} (word : value.IsWord) :
      value.isTemporal = false ∧ value.isNumber = false ∧ value.isPrintable = true := by
    cases value <;> first | exact ⟨rfl, rfl, rfl⟩ | cases word
  obtain ⟨undated, unnumbered, printable⟩ := ofWord first
  obtain ⟨undatedToo, -, printableToo⟩ := ofWord second
  rw [order?_of_undated undated undatedToo, plainOrder?, unnumbered, shown?_of_isPrintable printable,
    shown?_of_isPrintable printableToo]
  rfl

/-- A code is never at the place of a text that spells it. -/
theorem caseFold_shown_ne_of_isCode (code : left.isCode = true) (word : right.IsWord) (plain : right.isCode = false)
    (same : caseFold left.spelling = caseFold right.spelling) : caseFold left.shown ≠ caseFold right.shown := by
  have apart := caseFold_shown_of_mem_codes left (mem_codes code)
  have shown : right.shown = right.spelling := by
    rw [word.eq_text plain]
    rfl
  rwa [shown, ← same]

/-- Texts and codes with one spelling stand at one place exactly if both are codes or neither is. -/
theorem order?_eq_iff_of_isWord (first : left.IsWord) (second : right.IsWord)
    (same : caseFold left.spelling = caseFold right.spelling) :
    left.order? right = some .eq ↔ left.isCode = right.isCode := by
  rw [order?_of_isWord first second, Option.some.injEq, foldedOrder_eq_iff]
  cases ofLeft : left.isCode <;> cases ofRight : right.isCode
  case false.false =>
    rw [first.eq_text ofLeft, second.eq_text ofRight]
    exact iff_of_true same rfl
  case false.true => exact iff_of_false (caseFold_shown_ne_of_isCode ofRight first ofLeft same.symm).symm Bool.false_ne_true
  case true.false => exact iff_of_false (caseFold_shown_ne_of_isCode ofLeft second ofRight same) Bool.false_ne_true.symm
  case true.true =>
    rw [List.inj_on_of_nodup_map nodup_spelling_codes (mem_codes ofLeft) (mem_codes ofRight) same]
    exact iff_of_true rfl rfl

theorem isCode_of_areMoment (same : AreMoment left right) : left.isCode = false ∧ right.isCode = false := by
  obtain ⟨one, other, first, second, _⟩ := sameStamp_iff.mp same.same
  have plain {value : Value} {moment : Timestamp} (stands : value.toStamp? = some moment) : value.isCode = false := by
    rw [← Bool.not_eq_true]
    intro code
    cases (toStamp?_of_mem_codes value (mem_codes code)).symm.trans stands
  exact ⟨plain first, plain second⟩

theorem mark?_eq_text_iff {value : Value} {folded : String} :
    value.mark? = some (.text folded) ↔ value.IsWord ∧ caseFold value.spelling = folded := by
  cases value <;> simp [mark?, IsWord, spelling, asText?]

theorem mark?_eq_number_iff {value : Value} {place : Place} :
    value.mark? = some (.number place) ↔ value.place? = some place := by
  cases value <;> simp [mark?, place?]

/-- Values with one mark stand at one place exactly if both are codes or neither is. -/
theorem order?_eq_iff_of_haveMark (same : HaveMark left right) :
    left.order? right = some .eq ↔ left.isCode = right.isCode := by
  obtain ⟨mark, first, second⟩ := same
  cases mark with
  | null =>
    have ofNull {value : Value} (own : value.mark? = some .null) : value = .null := by cases value <;> simp_all [mark?]
    rw [ofNull first, ofNull second]
    exact iff_of_true (by decide +kernel) rfl
  | bool b =>
    have ofBool {value : Value} (own : value.mark? = some (.bool b)) : value = .bool b := by
      cases value <;> simp_all [mark?]
    rw [ofBool first, ofBool second]
    exact iff_of_true (by cases b <;> decide +kernel) rfl
  | number place =>
    rw [mark?_eq_number_iff] at first second
    have plain {value : Value} (own : value.place? = some place) : value.isCode = false := by
      cases value <;> first | rfl | cases own
    refine iff_of_true ?_ ((plain first).trans (plain second).symm)
    rw [order?_of_place? first second, Option.some.injEq, Place.compare_eq_iff]
  | text folded =>
    rw [mark?_eq_text_iff] at first second
    exact order?_eq_iff_of_isWord first.1 second.1 (first.2.trans second.2.symm)

/-- Values that agree stand at one place exactly if both are codes or neither is. -/
theorem order?_eq_iff_of_agrees (single : left.IsSingle) (agree : left.agrees right = true) :
    left.order? right = some .eq ↔ left.isCode = right.isCode := by
  rcases (agrees_iff_of_isSingle single).mp agree with mark | moment
  · exact order?_eq_iff_of_haveMark mark
  · obtain ⟨first, second⟩ := isCode_of_areMoment moment
    exact iff_of_true (order?_of_areMoment moment) (first.trans second.symm)

end Agreeing

section Kinds

/-- Whether a value has a place in the order that is not behind another's. -/
def IsUpTo (left right : Value) : Prop :=
  ∃ place, left.order? right = some place ∧ place.isLE = true

/-- Whether the order is a total one on a kind of values, in which values stand at one place exactly if they agree. -/
structure IsOrdered (kind : Value → Prop) : Prop where
  total {left right : Value} (first : kind left) (second : kind right) : left.IsUpTo right ∨ right.IsUpTo left
  trans {left middle right : Value} (first : kind left) (second : kind middle) (third : kind right)
    (low : left.IsUpTo middle) (high : middle.IsUpTo right) : left.IsUpTo right
  eq_iff {left right : Value} (first : kind left) (second : kind right) :
    left.order? right = some .eq ↔ left.agrees right = true

/-- The kind of the numbers, of which what is no number is none. -/
def IsNumeric (value : Value) : Prop :=
  value.place?.isSome = true

/-- The kind of the texts. -/
def IsText (value : Value) : Prop :=
  ∃ content, value = .text content

/-- The kind of the dates and timestamps. -/
def IsDated (value : Value) : Prop :=
  value.isTemporal = true

/-- A kind is ordered if each of its values has something by which they are compared. -/
theorem IsOrdered.of_key {α : Type} {kind : Value → Prop} (compare : α → α → Ordering) [Std.TransCmp compare]
    (key : Value → Option α) (keyed : ∀ value, kind value → ∃ own, key value = some own)
    (order : ∀ {left right} {first second : α}, kind left → kind right → key left = some first →
      key right = some second → left.order? right = some (compare first second))
    (agrees : ∀ {left right} {first second : α}, kind left → kind right → key left = some first →
      key right = some second → (left.agrees right = true ↔ compare first second = .eq)) : IsOrdered kind where
  total {left right} first second := by
    obtain ⟨own, ofLeft⟩ := keyed left first
    obtain ⟨other, ofRight⟩ := keyed right second
    have turned : compare other own = (compare own other).swap := Std.OrientedCmp.eq_swap
    rw [IsUpTo, IsUpTo, order first second ofLeft ofRight, order second first ofRight ofLeft, turned]
    cases compare own other <;> simp
  trans {left middle right} first second third low high := by
    obtain ⟨own, ofLeft⟩ := keyed left first
    obtain ⟨between, ofMiddle⟩ := keyed middle second
    obtain ⟨other, ofRight⟩ := keyed right third
    obtain ⟨_, same, low⟩ := low
    obtain rfl := Option.some.inj ((order first second ofLeft ofMiddle).symm.trans same)
    obtain ⟨_, same, high⟩ := high
    obtain rfl := Option.some.inj ((order second third ofMiddle ofRight).symm.trans same)
    exact ⟨_, order first third ofLeft ofRight, Std.TransCmp.isLE_trans low high⟩
  eq_iff {left right} first second := by
    obtain ⟨own, ofLeft⟩ := keyed left first
    obtain ⟨other, ofRight⟩ := keyed right second
    rw [order first second ofLeft ofRight, Option.some.injEq, agrees first second ofLeft ofRight]

theorem agrees_iff_place? {place : Place} (own : left.place? = some place) :
    left.agrees right = true ↔ right.place? = some place := by
  rw [← mark?_eq_number_iff]
  cases left with
  | int n =>
    cases own
    exact agrees_int_iff n
  | float x => simp [agrees_float_iff, show x.place? = some place from own]
  | _ => cases own

theorem isOrdered_isNumeric : IsOrdered IsNumeric := by
  refine .of_key Place.compare place? (fun value => Option.isSome_iff_exists.mp) ?_ ?_
  · exact fun _ _ first second => order?_of_place? first second
  · intro left right place other _ _ first second
    rw [agrees_iff_place? first, second, Option.some.injEq, Place.compare_eq_iff, eq_comm]

theorem isOrdered_isText : IsOrdered IsText := by
  refine .of_key Ord.compare (fun value => some (caseFold value.spelling)) (fun value _ => ⟨_, rfl⟩) ?_ ?_
  · rintro _ _ _ _ ⟨content, rfl⟩ ⟨other, rfl⟩ ⟨⟩ ⟨⟩
    exact order?_text content other
  · rintro _ _ _ _ ⟨content, rfl⟩ ⟨other, rfl⟩ ⟨⟩ ⟨⟩
    rw [Std.LawfulEqOrd.compare_eq_iff_eq]
    simp [agrees, textAgrees, asText?, spelling]

theorem agrees_iff_of_isDated (dated : left.IsDated) : left.agrees right = true ↔ AreMoment left right := by
  cases left with
  | date day => exact agrees_date_iff day
  | stamp time => exact agrees_stamp_iff time
  | _ => cases dated

theorem isOrdered_isDated : IsOrdered IsDated := by
  refine .of_key Timestamp.compare toStamp? (fun value dated => ?_) ?_ ?_
  · cases value <;> first | exact ⟨_, rfl⟩ | cases dated
  · intro left right first second dated _ ofLeft ofRight
    rw [order?_eq, momentOrder?_of_stamps (.inl dated) ofLeft ofRight, Option.some_or]
  · intro left right first second dated _ ofLeft ofRight
    rw [agrees_iff_of_isDated dated, areMoment_iff, sameStamp_iff, ofLeft, ofRight]
    simp [show left.isTemporal = true from dated]

end Kinds

section Fields

variable {now : Timestamp} {record : Value} {field : String} {operand : Value}

theorem isCode_decoded (value : Value) : value.decoded.isCode = false := by
  cases value <;> rfl

/-- A path leads to no code. -/
theorem isCode_follow (value : Value) (keys : List String) : (value.follow keys).isCode = false := by
  induction keys generalizing value with
  | nil => exact isCode_decoded value
  | cons key keys ih =>
    rw [follow]
    split
    · rfl
    · exact ih _
    · rfl

/-- A requirement on a field that asks for no time. -/
def comparing (field : String) (comparison : Comparison) (operand : Value) : Condition :=
  .leaf ⟨field, comparison, operand, none, none⟩

/-- The comparisons with a value, and with the value as both bounds, and whether what is at its place passes them. -/
def boundsAt (operand : Value) : List (Comparison × Value × Bool) :=
  [(.lessThanOrEqual, operand, true), (.greaterThanOrEqual, operand, true),
    (.between, .list [operand, operand], true), (.lessThan, operand, false), (.greaterThan, operand, false)]

theorem holds_of_mem_boundsAt (field : String) (same : left.order? operand = some .eq) :
    ∀ bound ∈ boundsAt operand, bound.1.holds field left bound.2.1 = .ok bound.2.2 := by
  have between : Comparison.isBetween left operand operand = .ok true := by
    rw [Comparison.isBetween, same]
    rfl
  simp [boundsAt, Comparison.holds, between, same, Outcome.ofPrinted]

theorem compares_of_mem_boundsAt :
    ∀ bound ∈ boundsAt operand, bound.1 ≠ .exists ∧ bound.1 ≠ .notExists := by
  simp [boundsAt]

/-- A field that is there passes a comparison if its value does. -/
theorem passes_comparing (comparison : Comparison) {passed : Bool} (present : (record.atPath field).isNull = false)
    (compares : comparison ≠ .exists ∧ comparison ≠ .notExists)
    (outcome : comparison.holds field (record.atPath field) operand = .ok passed) :
    Condition.passes now record (comparing field comparison operand) = passed := by
  rw [Bool.eq_iff_iff, comparing, Condition.passes_leaf_iff, Requirement.holds_of_untimed rfl compares, present,
    if_neg Bool.false_ne_true, outcome, Except.ok.injEq]

theorem passes_equals_iff : Condition.passes now record (comparing field .equals operand) = true ↔
    (record.atPath field).isNull = false ∧ (record.atPath field).agrees operand = true := by
  rw [comparing, Condition.passes_leaf_iff, Requirement.holds]
  cases present : (record.atPath field).isNull <;> simp [Comparison.holds]

/-- What agrees with a single value is one. -/
theorem IsSingle.of_agrees (single : right.IsSingle) (agree : left.agrees right = true) : left.IsSingle := by
  cases left with
  | float x => rintro rfl; simp [agrees_float_iff, Binary64.place?] at agree
  | list => cases right <;> first | exact single | simp [agrees] at agree
  | map => cases right <;> first | exact single | simp [agrees] at agree
  | _ => trivial

end Fields

/-- The order of values, and how it goes with their agreement. It is turned round where two values change places, and
there is none, both ways, exactly where one of the values cannot be printed and one is no number. Two values without
parts that agree stand at one place exactly if both are codes or neither is. So a field that is equal to an operand
without parts that is no code passes all comparisons that let through what is at the place of the operand, and no
others. On the numbers, on the texts, and on the dates and timestamps the order is a total one, in which values stand at
one place exactly if they agree. -/
theorem order_isConsistent :
    (∀ left right : Value, right.order? left = (left.order? right).map Ordering.swap) ∧
    (∀ left right : Value, left.order? right = none ↔
      (left.isPrintable = false ∨ right.isPrintable = false) ∧ ¬ (left.isNumber = true ∧ right.isNumber = true)) ∧
    (∀ left right : Value, left.IsSingle → right.IsSingle → left.agrees right = true →
      (left.order? right = some .eq ↔ left.isCode = right.isCode)) ∧
    (∀ (field : String) (left operand : Value), left.IsSingle → operand.IsSingle → left.isCode = operand.isCode →
      left.agrees operand = true →
        ∀ bound ∈ boundsAt operand, bound.1.holds field left bound.2.1 = .ok bound.2.2) ∧
    (∀ (now : Timestamp) (record : Value) (field : String) (operand : Value), operand.IsSingle →
      operand.isCode = false → Condition.passes now record (comparing field .equals operand) = true →
        ∀ bound ∈ boundsAt operand, Condition.passes now record (comparing field bound.1 bound.2.1) = bound.2.2) ∧
    IsOrdered IsNumeric ∧ IsOrdered IsText ∧ IsOrdered IsDated := by
  refine ⟨order?_eq_swap, fun left right => order?_eq_none_iff,
    fun left right single _ => order?_eq_iff_of_agrees single, ?_, ?_, isOrdered_isNumeric, isOrdered_isText,
    isOrdered_isDated⟩
  · intro field left operand single _ codes agree
    exact holds_of_mem_boundsAt field ((order?_eq_iff_of_agrees single agree).mpr codes)
  · intro now record field operand single plain passed bound listed
    obtain ⟨present, agree⟩ := passes_equals_iff.mp passed
    have codes : (record.atPath field).isCode = operand.isCode := (isCode_follow _ _).trans plain.symm
    have same := (order?_eq_iff_of_agrees (single.of_agrees agree) agree).mpr codes
    have outcome := holds_of_mem_boundsAt field same bound listed
    exact passes_comparing bound.1 present (compares_of_mem_boundsAt bound listed) outcome

/-- A code is equal to a text that spells it, and stands behind it. -/
theorem order_gt_of_agrees :
    (visa .f1).IsSingle ∧ (text "F1").IsSingle ∧ (visa .f1).agrees (.text "F1") = true ∧
      (visa .f1).order? (.text "F1") = some .gt := by
  exact ⟨trivial, trivial, by decide +kernel, by decide +kernel⟩

/-- A record with a code. -/
def holder : Value :=
  .map [("visaType", .visa .f1)]

theorem order_isConsistent_holder :
    (text "f1").order? (.visa .f1) = ((visa .f1).order? (.text "f1")).map Ordering.swap ∧
    (int (10 ^ 4300)).order? (.text "f1") = none ∧
    (date default).order? (.text "0001-01-01") = some .eq ∧
    (∀ bound ∈ boundsAt (date default), bound.1.holds "start" (.text "0001-01-01") bound.2.1 = .ok bound.2.2) ∧
    (∀ bound ∈ boundsAt (.text "f1"),
      Condition.passes (.midnight default) holder (comparing "visaType" bound.1 bound.2.1) = bound.2.2) ∧
    (int 2).IsUpTo (.int 4) ∧ (text "b").order? (.text "B") = some .eq ∧
    ((date default).IsUpTo (.stamp default) ∨ (stamp default).IsUpTo (.date default)) := by
  obtain ⟨swapped, unordered, atOnePlace, compared, fields, numbers, texts, dates⟩ := order_isConsistent
  have spelled := atOnePlace (.date default) (.text "0001-01-01") trivial trivial (by decide +kernel)
  have numeric (n : Int) : IsNumeric (.int n) := rfl
  have least : (int 2).IsUpTo (.int 3) := ⟨.lt, by decide +kernel, rfl⟩
  have below : (int 3).IsUpTo (.int 4) := ⟨.lt, by decide +kernel, rfl⟩
  refine ⟨swapped _ _, (unordered _ _).mpr ⟨.inl ?_, by simp [isNumber]⟩, spelled.mpr rfl, ?_, ?_,
    numbers.trans (numeric 2) (numeric 3) (numeric 4) least below, ?_, ?_⟩
  · decide +kernel
  · exact compared "start" (.text "0001-01-01") (.date default) trivial trivial rfl (by decide +kernel)
  · exact fields (.midnight default) holder "visaType" (.text "f1") trivial rfl (by decide +kernel)
  · exact (texts.eq_iff ⟨"b", rfl⟩ ⟨"B", rfl⟩).mpr (by decide +kernel)
  · exact dates.total rfl rfl

end Value

end Obligations
