import Obligations.Condition.Evaluation
import Obligations.Proofs.Settings.Overlay
import Mathlib.Data.List.Forall2
import Mathlib.Tactic.MkIffOfInductiveProp

/-! # Values that agree

Which values agree can be told without an order of cases. Two values agree if they have the same mark: the case
of texts is no part of it, nor is whether a number is written as a whole one. They agree if one of them is a date
or a timestamp and both stand for the same moment. And they agree if they are lists or maps of which the parts
agree. So agreement goes both ways, and without dates and timestamps it is handed on. With them it is not: texts
that are spelled differently may stand for one day.
-/

namespace Obligations

open Obligations.Calendar Obligations.Number Obligations.Text

section Places

theorem Number.Binary64.unitsPerOne_pos : 0 < unitsPerOne := by
  unfold unitsPerOne
  -- the power is too great to be evaluated
  generalize 1074 = exponent
  exact Nat.two_pow_pos exponent

theorem Number.placeOfInt_inj {n m : Int} : placeOfInt n = placeOfInt m ↔ n = m := by
  have positive : (0 : Int) < (Binary64.unitsPerOne : Int) := Int.natCast_pos.mpr Binary64.unitsPerOne_pos
  rw [placeOfInt, placeOfInt, Place.at.injEq]
  exact ⟨Int.eq_of_mul_eq_mul_right (Int.ne_of_gt positive), fun same => same ▸ rfl⟩

theorem Number.Place.compare_eq_iff {place other : Place} : place.compare other = .eq ↔ place = other := by
  cases place <;> cases other <;> simp [compare]

end Places

namespace Value

/-- What values without parts are told apart by, unless they are dates or timestamps. -/
inductive Mark where
  | null
  | bool (b : Bool)
  | number (place : Place)
  | text (folded : String)

/-- The mark of a value that has one. -/
def mark? : Value → Option Mark
  | .null => some .null
  | .bool b => some (.bool b)
  | .int n => some (.number (placeOfInt n))
  | .float x => x.place?.map .number
  | .text s => some (.text (caseFold s))
  | .visa v => some (.text (caseFold v.code))
  | .phase p => some (.text (caseFold p.code))
  | .date _ | .stamp _ | .list _ | .map _ => none

/-- Whether two values have a mark, and the same one. -/
def HaveMark (left right : Value) : Prop :=
  ∃ mark, left.mark? = some mark ∧ right.mark? = some mark

/-- Whether two values stand for one moment, and one of them is a date or a timestamp. -/
@[mk_iff] structure AreMoment (left right : Value) : Prop where
  dated : left.isTemporal = true ∨ right.isTemporal = true
  same : sameStamp left.toStamp? right.toStamp? = true

/-- Whether two maps have the same keys, with values that are related. -/
structure AreRelated (related : Value → Value → Prop) (members others : List (String × Value)) : Prop where
  keys : ∀ key, key ∈ members.map Prod.fst ↔ key ∈ others.map Prod.fst
  values : ∀ key left right, members.lookup key = some left → others.lookup key = some right → related left right

/-- When two values agree of which the parts agree if they are related. -/
inductive Matches (related : Value → Value → Prop) : Value → Value → Prop
  | mark {left right : Value} (same : HaveMark left right) : Matches related left right
  | moment {left right : Value} (same : AreMoment left right) : Matches related left right
  | list {items others : List Value} (each : List.Forall₂ related items others) :
      Matches related (.list items) (.list others)
  | map {members others : List (String × Value)} (each : AreRelated related members others) :
      Matches related (.map members) (.map others)

/-- The parts of a value: the members of a list and the values of a map. -/
def parts : Value → List Value
  | .list items => items
  | .map members => members.map Prod.snd
  | _ => []

/-- Values made of single ones of some kind, put into lists and into maps with one value per key, to any depth. -/
inductive IsMadeOf (kind : Value → Prop) : Value → Prop
  | single {value : Value} (own : kind value) : IsMadeOf kind value
  | list {items : List Value} (parts : ∀ item ∈ items, IsMadeOf kind item) : IsMadeOf kind (.list items)
  | map {members : List (String × Value)} (once : (members.map Prod.fst).Nodup)
      (parts : ∀ member ∈ members, IsMadeOf kind member.2) : IsMadeOf kind (.map members)

/-- Whether a value has no parts, and is not the number that is none. -/
def IsSingle : Value → Prop
  | .float x => x ≠ .nan
  | .list _ | .map _ => False
  | _ => True

/-- Whether the number that is none occurs nowhere in a value, and every map in it has one value per key. -/
def IsOrdinary (value : Value) : Prop :=
  value.IsMadeOf IsSingle

/-- Whether neither a date nor a timestamp occurs in an ordinary value either. -/
def IsDateless (value : Value) : Prop :=
  value.IsMadeOf fun part => part.IsSingle ∧ part.isTemporal = false

section Cases

variable {left right : Value}

theorem sameStamp_comm (first second : Option Timestamp) : sameStamp first second = sameStamp second first := by
  cases first <;> cases second <;> simp [sameStamp, Bool.beq_comm]

theorem numberOrder?_eq_iff : numberOrder? left right = some .eq ↔
    ∃ place, left.place? = some place ∧ right.place? = some place := by
  simp only [numberOrder?, Option.bind_eq_bind, Option.bind_eq_some_iff, Option.pure_def, Option.some.injEq,
    Place.compare_eq_iff]
  constructor
  · rintro ⟨place, first, _, second, rfl⟩
    exact ⟨place, first, second⟩
  · rintro ⟨place, first, second⟩
    exact ⟨place, first, place, second, rfl⟩

theorem textAgrees_iff (content : String) : textAgrees content right = true ↔
    right.mark? = some (.text (caseFold content)) ∨ AreMoment (.text content) right := by
  cases right with
  | text | visa | phase =>
    simp [textAgrees, mark?, asText?, areMoment_iff, isTemporal, eq_comm (a := caseFold content)]
  | _ => simp [textAgrees, mark?, asText?, areMoment_iff, isTemporal, toStamp?]

theorem agrees_null_iff : null.agrees right = true ↔ right.mark? = some .null := by
  cases right <;> simp [agrees, mark?, isNull]

theorem agrees_bool_iff (b : Bool) : (bool b).agrees right = true ↔ right.mark? = some (.bool b) := by
  cases right with
  | bool other => simp [agrees, mark?, eq_comm (a := b)]
  | _ => simp [agrees, mark?]

theorem agrees_int_iff (n : Int) : (int n).agrees right = true ↔ right.mark? = some (.number (placeOfInt n)) := by
  cases right with
  | int other => simp [agrees, mark?, placeOfInt_inj, eq_comm (a := n)]
  | float x => simp [agrees, mark?, numberOrder?_eq_iff, place?]
  | _ => simp [agrees, mark?]

theorem agrees_float_iff (x : Binary64) : (float x).agrees right = true ↔
    ∃ place, x.place? = some place ∧ right.mark? = some (.number place) := by
  cases right with
  | int other => simp [agrees, mark?, numberOrder?_eq_iff, place?]
  | float other => simp [agrees, mark?, numberOrder?_eq_iff, place?]
  | _ => simp [agrees, mark?]

theorem agrees_date_iff (day : Date) : (date day).agrees right = true ↔ AreMoment (.date day) right := by
  cases right <;> simp [agrees, areMoment_iff, isTemporal, toStamp?, sameStamp]

theorem agrees_stamp_iff (time : Timestamp) : (stamp time).agrees right = true ↔ AreMoment (.stamp time) right := by
  cases right <;> simp [agrees, areMoment_iff, isTemporal, toStamp?, sameStamp]

theorem agrees_iff_of_asText? {content : String} (written : left.asText? = some content) :
    left.agrees right = true ↔ HaveMark left right ∨ AreMoment left right := by
  rw [agrees_of_asText? written, textAgrees_iff]
  cases left with
  | text | visa | phase => cases written; simp [HaveMark, mark?, areMoment_iff, isTemporal, toStamp?]
  | _ => cases written

/-- A single value agrees with those that have its mark or stand for its moment. -/
theorem agrees_iff_of_isSingle (single : left.IsSingle) :
    left.agrees right = true ↔ HaveMark left right ∨ AreMoment left right := by
  cases left with
  | null => simp [agrees_null_iff, HaveMark, mark?, areMoment_iff, toStamp?, sameStamp]
  | bool b => simp [agrees_bool_iff, HaveMark, mark?, areMoment_iff, toStamp?, sameStamp]
  | int n => simp [agrees_int_iff, HaveMark, mark?, areMoment_iff, toStamp?, sameStamp]
  | float x => simp [agrees_float_iff, HaveMark, mark?, areMoment_iff, toStamp?, sameStamp]
  | text s => exact agrees_iff_of_asText? rfl
  | visa v => exact agrees_iff_of_asText? rfl
  | phase p => exact agrees_iff_of_asText? rfl
  | date day => simp [agrees_date_iff, HaveMark, mark?]
  | stamp time => simp [agrees_stamp_iff, HaveMark, mark?]
  | list | map => exact single.elim

theorem listAgrees_iff {items others : List Value} :
    listAgrees items others = true ↔ List.Forall₂ (fun item other => item.agrees other = true) items others := by
  induction items generalizing others with
  | nil => cases others <;> simp [listAgrees]
  | cons item rest ih => cases others <;> simp [listAgrees, ih]

theorem membersAgree_iff {members others : List (String × Value)} : membersAgree members others = true ↔
    ∀ member ∈ members, ∃ other, others.lookup member.1 = some other ∧ member.2.agrees other = true := by
  induction members with
  | nil => simp [membersAgree]
  | cons member rest ih =>
    rw [membersAgree, Bool.and_eq_true, ih, List.forall_mem_cons]
    refine and_congr_left' ?_
    cases others.lookup member.1 <;> simp

theorem agrees_list_iff {items : List Value} : (list items).agrees right = true ↔
    ∃ others, right = .list others ∧ List.Forall₂ (fun item other => item.agrees other = true) items others := by
  cases right with
  | list others => simp [agrees, listAgrees_iff]
  | _ => simp [agrees]

theorem isSome_lookup_iff {members : List (String × Value)} {key : String} :
    (members.lookup key).isSome = true ↔ key ∈ members.map Prod.fst := by
  rw [Option.isSome_iff_exists]
  refine ⟨fun ⟨value, found⟩ => ?_, exists_lookup⟩
  exact List.mem_map_of_mem (mem_of_lookup found)

theorem all_isSome_lookup_iff {members others : List (String × Value)} :
    (members.all fun entry => (others.lookup entry.1).isSome) = true ↔
      ∀ key ∈ members.map Prod.fst, key ∈ others.map Prod.fst := by
  simp only [List.all_eq_true, isSome_lookup_iff, List.forall_mem_map]

theorem agrees_map_iff {members : List (String × Value)} (once : (members.map Prod.fst).Nodup) :
    (map members).agrees right = true ↔
      ∃ others, right = .map others ∧
        AreRelated (fun value other => value.agrees other = true) members others := by
  cases right with
  | map others =>
    rw [agrees, Bool.and_eq_true, Bool.and_eq_true, all_isSome_lookup_iff, all_isSome_lookup_iff, membersAgree_iff]
    constructor
    · rintro ⟨⟨first, second⟩, each⟩
      refine ⟨others, rfl, fun key => ⟨first key, second key⟩, fun key left right found foundToo => ?_⟩
      obtain ⟨other, there, agree⟩ := each _ (mem_of_lookup found)
      obtain rfl : other = right := Option.some.inj (there.symm.trans foundToo)
      exact agree
    · rintro ⟨_, ⟨⟩, keys, values⟩
      refine ⟨⟨fun key => (keys key).mp, fun key => (keys key).mpr⟩, fun member inside => ?_⟩
      obtain ⟨other, there⟩ := exists_lookup ((keys _).mp (List.mem_map_of_mem inside))
      exact ⟨other, there, values _ _ _ (lookup_of_mem once inside) there⟩
  | _ => simp [agrees]

end Cases

section Matching

variable {related : Value → Value → Prop} {left right : Value}

theorem matches_iff_of_isSingle (single : left.IsSingle) :
    Matches related left right ↔ HaveMark left right ∨ AreMoment left right := by
  constructor
  · intro matched
    cases matched with
    | mark same => exact .inl same
    | moment same => exact .inr same
    | list | map => exact single.elim
  · rintro (mark | moment)
    · exact .mark mark
    · exact .moment moment

theorem not_haveMark (none : left.mark? = none) : ¬ HaveMark left right := by
  rintro ⟨mark, own, _⟩
  cases none.symm.trans own

theorem not_areMoment (none : left.toStamp? = none) : ¬ AreMoment left right := by
  intro moment
  have same := moment.same
  rw [none] at same
  cases same

theorem matches_list_iff {items : List Value} : Matches related (.list items) right ↔
    ∃ others, right = .list others ∧ List.Forall₂ related items others := by
  constructor
  · intro matched
    cases matched with
    | mark same => exact absurd same (not_haveMark rfl)
    | moment same => exact absurd same (not_areMoment rfl)
    | list each => exact ⟨_, rfl, each⟩
  · rintro ⟨others, rfl, each⟩
    exact .list each

theorem matches_map_iff {members : List (String × Value)} : Matches related (.map members) right ↔
    ∃ others, right = .map others ∧ AreRelated related members others := by
  constructor
  · intro matched
    cases matched with
    | mark same => exact absurd same (not_haveMark rfl)
    | moment same => exact absurd same (not_areMoment rfl)
    | map each => exact ⟨_, rfl, each⟩
  · rintro ⟨others, rfl, each⟩
    exact .map each

/-- What an ordinary value agrees with is what it matches by the parts that agree. -/
theorem agrees_iff_matches (ordinary : left.IsOrdinary) :
    left.agrees right = true ↔ Matches (fun value other => value.agrees other = true) left right := by
  cases ordinary with
  | single single => rw [agrees_iff_of_isSingle single, matches_iff_of_isSingle single]
  | list => rw [agrees_list_iff, matches_list_iff]
  | map once => rw [agrees_map_iff once, matches_map_iff]

/-- Matching goes both ways where being related does. -/
theorem Matches.symm (matched : Matches related left right) :
    Matches (fun value other => related other value) right left := by
  cases matched with
  | mark same =>
    obtain ⟨mark, first, second⟩ := same
    exact .mark ⟨mark, second, first⟩
  | moment moment => exact .moment ⟨moment.dated.symm, sameStamp_comm _ _ ▸ moment.same⟩
  | list each => exact .list each.flip
  | map each =>
    exact .map ⟨fun key => (each.keys key).symm, fun key left right found foundToo =>
      each.values key right left foundToo found⟩

/-- What matches by parts that are related in one way matches by parts that are related in another one, as long as
these are of the two values. -/
theorem Matches.imp {other : Value → Value → Prop} (matched : Matches related left right)
    (implies : ∀ first ∈ left.parts, ∀ second ∈ right.parts, related first second → other first second) :
    Matches other left right := by
  cases matched with
  | mark same => exact .mark same
  | moment same => exact .moment same
  | list each =>
    refine .list (List.forall₂_iff_zip.mpr ⟨each.length_eq, fun pair => ?_⟩)
    obtain ⟨first, second⟩ := List.of_mem_zip pair
    exact implies _ first _ second (List.forall₂_zip each pair)
  | map each =>
    refine .map ⟨each.keys, fun key left right found foundToo => ?_⟩
    exact implies left (List.mem_map_of_mem (mem_of_lookup found)) right
      (List.mem_map_of_mem (mem_of_lookup foundToo)) (each.values key left right found foundToo)

private theorem forall₂_through {other : Value → Value → Prop} {items betweens images : List Value}
    (each : List.Forall₂ related items betweens) (further : List.Forall₂ other betweens images) :
    List.Forall₂ (fun value image => ∃ between ∈ betweens, related value between ∧ other between image)
      items images := by
  induction each generalizing images with
  | nil =>
    cases further
    exact .nil
  | cons one _ ih =>
    cases further with
    | cons more rest =>
      refine .cons ⟨_, List.mem_cons_self, one, more⟩ ((ih rest).imp ?_)
      rintro value image ⟨between, listed, first, second⟩
      exact ⟨between, List.mem_cons_of_mem _ listed, first, second⟩

/-- Values without dates that match a value match by way of its parts. -/
theorem Matches.comp {other : Value → Value → Prop} {last : Value} (matched : Matches related left right)
    (further : Matches other right last) (first : left.isTemporal = false) (second : right.isTemporal = false)
    (third : last.isTemporal = false) :
    Matches (fun value image => ∃ between ∈ right.parts, related value between ∧ other between image) left last := by
  have notMoment {value image : Value} (undated : value.isTemporal = false) (undatedToo : image.isTemporal = false) :
      ¬ AreMoment value image := by
    intro moment
    simpa [undated, undatedToo] using moment.dated
  cases matched with
  | mark same =>
    obtain ⟨mark, leftMark, rightMark⟩ := same
    cases further with
    | mark same =>
      obtain ⟨markToo, rightMarkToo, lastMark⟩ := same
      obtain rfl : mark = markToo := Option.some.inj (rightMark.symm.trans rightMarkToo)
      exact .mark ⟨mark, leftMark, lastMark⟩
    | moment same => exact absurd same (notMoment second third)
    | list | map => cases rightMark
  | moment same => exact absurd same (notMoment first second)
  | list each =>
    obtain ⟨others, rfl, eachToo⟩ := matches_list_iff.mp further
    exact .list (forall₂_through each eachToo)
  | map each =>
    obtain ⟨others, rfl, eachToo⟩ := matches_map_iff.mp further
    refine .map ⟨fun key => (each.keys key).trans (eachToo.keys key), fun key value image found foundToo => ?_⟩
    obtain ⟨between, there⟩ :=
      exists_lookup ((each.keys key).mp (List.mem_map_of_mem (mem_of_lookup found)))
    exact ⟨between, List.mem_map_of_mem (mem_of_lookup there), each.values key _ _ found there,
      eachToo.values key _ _ there foundToo⟩

end Matching

section Ordinary

variable {kind other : Value → Prop} {left middle right value : Value}

theorem IsMadeOf.imp (made : value.IsMadeOf kind) (implies : ∀ value, kind value → other value) :
    value.IsMadeOf other := by
  induction made with
  | single own => exact .single (implies _ own)
  | list _ ih => exact .list ih
  | map once _ ih => exact .map once ih

theorem parts_of_isSingle (single : value.IsSingle) : value.parts = [] := by
  cases value with
  | list | map => exact single.elim
  | _ => rfl

theorem IsMadeOf.of_mem_parts (made : value.IsMadeOf kind) (single : ∀ value, kind value → value.IsSingle)
    {part : Value} (listed : part ∈ value.parts) : part.IsMadeOf kind := by
  cases made with
  | single own =>
    rw [parts_of_isSingle (single _ own)] at listed
    cases listed
  | list parts => exact parts part listed
  | map _ parts =>
    obtain ⟨member, inside, rfl⟩ := List.mem_map.mp listed
    exact parts member inside

/-- What holds of a value as soon as it holds of its parts holds of all values that are made of single ones. -/
theorem IsMadeOf.part_induction {motive : Value → Prop} (made : value.IsMadeOf kind)
    (single : ∀ value, kind value → value.IsSingle)
    (step : ∀ value, value.IsMadeOf kind → (∀ part ∈ value.parts, motive part) → motive value) : motive value := by
  induction made with
  | single own =>
    refine step _ (.single own) fun part listed => ?_
    rw [parts_of_isSingle (single _ own)] at listed
    cases listed
  | list parts ih => exact step _ (.list parts) ih
  | map once parts ih =>
    refine step _ (.map once parts) fun part listed => ?_
    obtain ⟨member, inside, rfl⟩ := List.mem_map.mp listed
    exact ih member inside

theorem IsDateless.isOrdinary (dateless : value.IsDateless) : value.IsOrdinary :=
  dateless.imp fun _ own => own.1

theorem IsDateless.isTemporal_eq (dateless : value.IsDateless) : value.isTemporal = false := by
  cases dateless with
  | single own => exact own.2
  | list | map => rfl

/-- Every ordinary value agrees with itself. -/
theorem IsOrdinary.agrees_self (ordinary : value.IsOrdinary) : value.agrees value = true := by
  induction ordinary with
  | @single value own =>
    rw [agrees_iff_of_isSingle own]
    cases value with
    | float x => cases x <;> first | exact absurd rfl own | exact .inl ⟨_, rfl, rfl⟩
    | date day | stamp time => exact .inr ⟨.inl rfl, by simp [toStamp?, sameStamp]⟩
    | list | map => exact own.elim
    | _ => exact .inl ⟨_, rfl, rfl⟩
  | list _ ih => exact agrees_list_iff.mpr ⟨_, rfl, List.forall₂_same.mpr ih⟩
  | map once _ ih =>
    refine (agrees_map_iff once).mpr ⟨_, rfl, fun key => Iff.rfl, fun key first second found foundToo => ?_⟩
    obtain rfl : first = second := Option.some.inj (found.symm.trans foundToo)
    exact ih _ (mem_of_lookup found)

/-- An ordinary value agrees with the ones that agree with it. -/
theorem IsOrdinary.agrees_symm (ordinary : left.IsOrdinary) (ordinaryToo : right.IsOrdinary)
    (agree : left.agrees right = true) : right.agrees left = true := by
  suffices all : ∀ right : Value, right.IsOrdinary → left.agrees right = true → right.agrees left = true from
    all right ordinaryToo agree
  apply ordinary.part_induction fun _ own => own
  intro left ordinary ih right ordinaryToo agree
  rw [agrees_iff_matches ordinary] at agree
  rw [agrees_iff_matches ordinaryToo]
  refine agree.symm.imp fun second inside first listed related => ?_
  exact ih first listed second (ordinaryToo.of_mem_parts (fun _ own => own) inside) related

/-- Without dates what agrees with a value agrees with all that the value agrees with. -/
theorem IsDateless.agrees_trans (first : left.IsDateless) (second : middle.IsDateless) (third : right.IsDateless)
    (agree : left.agrees middle = true) (further : middle.agrees right = true) : left.agrees right = true := by
  suffices all : ∀ middle right : Value, middle.IsDateless → right.IsDateless → left.agrees middle = true →
      middle.agrees right = true → left.agrees right = true from all middle right second third agree further
  apply first.part_induction fun _ own => own.1
  intro left (first : left.IsDateless) ih middle right second third agree further
  have ofPart {value part : Value} (dateless : value.IsDateless) (listed : part ∈ value.parts) : part.IsDateless :=
    dateless.of_mem_parts (fun _ own => own.1) listed
  rw [agrees_iff_matches first.isOrdinary] at agree ⊢
  rw [agrees_iff_matches second.isOrdinary] at further
  refine (agree.comp further first.isTemporal_eq second.isTemporal_eq third.isTemporal_eq).imp ?_
  rintro one listed other inside ⟨between, there, related, relatedToo⟩
  exact ih one listed between other (ofPart second there) (ofPart third inside) related relatedToo

end Ordinary

/-- Every ordinary value agrees with itself and with the values that agree with it, and among ordinary values
without dates and timestamps agreement is an equivalence. So an ordinary value is in a list exactly if the list
holds it, and it is in the list or it is not. -/
theorem agrees_isEquivalence :
    (∀ value : Value, value.IsOrdinary → value.agrees value = true) ∧
    (∀ left right : Value, left.IsOrdinary → right.IsOrdinary → left.agrees right = right.agrees left) ∧
    Equivalence (fun left right : { value : Value // value.IsDateless } => left.1.agrees right.1 = true) ∧
    ∀ (field : String) (value : Value) (items : List Value),
      (value.IsOrdinary → (list items).IsOrdinary →
        Comparison.isIn.holds field value (.list items) = Comparison.contains.holds field (.list items) value) ∧
      ∃ isIn : Bool, Comparison.isIn.holds field value (.list items) = .ok isIn ∧
        Comparison.notIn.holds field value (.list items) = .ok !isIn := by
  have symm : ∀ left right : Value, left.IsOrdinary → right.IsOrdinary → left.agrees right = right.agrees left := by
    intro left right ordinary ordinaryToo
    rw [Bool.eq_iff_iff]
    exact ⟨ordinary.agrees_symm ordinaryToo, ordinaryToo.agrees_symm ordinary⟩
  refine ⟨fun value ordinary => ordinary.agrees_self, symm, ⟨?_, ?_, ?_⟩, ?_⟩
  · intro value
    exact value.2.isOrdinary.agrees_self
  · intro left right agree
    exact left.2.isOrdinary.agrees_symm right.2.isOrdinary agree
  · intro left middle right agree further
    exact left.2.agrees_trans middle.2 right.2 agree further
  · intro field value items
    refine ⟨fun ordinary listed => ?_, _, rfl, rfl⟩
    have same : ∀ item ∈ items, value.agrees item = item.agrees value := fun item inside =>
      symm value item ordinary (listed.of_mem_parts (fun _ own => own) inside)
    have any : items.any (value.agrees ·) = items.any (·.agrees value) := by
      rw [Bool.eq_iff_iff, List.any_eq_true, List.any_eq_true]
      exact exists_congr fun item => and_congr_right fun inside => by rw [same item inside]
    exact congrArg Except.ok any

/-- A visit of three days, and the same one written in another way. -/
def visits : Value × Value :=
  (.map [("guest", .text "Ana"), ("days", .list [.int 3, .date default])],
    .map [("days", .list [.float (.finite false (3 * Binary64.unitsPerOne)), .text "0001-01-01"]),
      ("guest", .text "ANA")])

private theorem forall_mem_pair {α : Type} {holds : α → Prop} {one other : α} (first : holds one)
    (second : holds other) : ∀ item ∈ [one, other], holds item := by
  simp [first, second]

theorem agrees_isEquivalence_visits :
    visits.1.IsOrdinary ∧ visits.2.IsOrdinary ∧ visits.1.agrees visits.1 = true ∧
      visits.1.agrees visits.2 = true ∧ visits.2.agrees visits.1 = true ∧
      Comparison.isIn.holds "visits" visits.1 (.list [.null, visits.2]) = .ok true ∧
      Comparison.contains.holds "visits" (.list [.null, visits.2]) visits.1 = .ok true := by
  have single {value : Value} (own : value.IsSingle) : value.IsOrdinary := .single own
  have ordinary : visits.1.IsOrdinary :=
    .map (by decide) (forall_mem_pair (single trivial) (.list (forall_mem_pair (single trivial) (single trivial))))
  have ordinaryToo : visits.2.IsOrdinary :=
    .map (by decide) (forall_mem_pair (.list (forall_mem_pair (single nofun) (single trivial))) (single trivial))
  have listed : (list [.null, visits.2]).IsOrdinary := .list (forall_mem_pair (single trivial) ordinaryToo)
  have agree : visits.1.agrees visits.2 = true := by
    decide +kernel
  have isIn : Comparison.isIn.holds "visits" visits.1 (.list [.null, visits.2]) = .ok true := by
    show Except.ok (visits.1.agrees .null || (visits.1.agrees visits.2 || false)) = _
    rw [agree, Bool.true_or, Bool.or_true]
  obtain ⟨self, symm, _, within⟩ := agrees_isEquivalence
  exact ⟨ordinary, ordinaryToo, self _ ordinary, agree, (symm _ _ ordinary ordinaryToo) ▸ agree, isIn,
    (within "visits" _ _).1 ordinary listed ▸ isIn⟩

/-- Texts that are spelled differently agree with one day, and not with each other. -/
example : (text "0001-01-01").agrees (.date default) = true ∧ (date default).agrees (.text "00010101") = true ∧
    (text "0001-01-01").agrees (.text "00010101") = false := by
  decide

end Value

end Obligations
