import Obligations.Number.Binary64
import Mathlib.Data.Nat.Cast.Order.Field
import Mathlib.Data.Rat.Floor
import Mathlib.Tactic.FieldSimp
import Mathlib.Tactic.Linarith
import Mathlib.Tactic.NormNum
import Mathlib.Tactic.Positivity
import Mathlib.Tactic.Ring

/-! # How far a result is from the exact one

Every operation gives the exact result, rounded once. What is lost by that is at most one part in two to the
fifty-third of the result, and half a unit for what is too small to have all its digits. Rounding does not look at how
a quotient is written, so a share that is the same number always comes out the same.
-/

namespace Obligations.Number

section Quotients

variable {a b : Nat}

/-- A quotient is rounded down where at most half of the divisor is left over, or up. -/
theorem roundDiv_cases (a b : Nat) :
    roundDiv a b = a / b ∧ 2 * (a % b) ≤ b ∨ roundDiv a b = a / b + 1 ∧ b ≤ 2 * (a % b) := by
  unfold roundDiv
  dsimp only
  split
  · exact .inl ⟨rfl, by omega⟩
  · split
    · exact .inr ⟨rfl, by omega⟩
    · rcases Nat.mod_two_eq_zero_or_one (a / b) with even | odd
      · exact .inl ⟨by omega, by omega⟩
      · exact .inr ⟨by omega, by omega⟩

/-- A quotient is rounded by at most one half. -/
theorem roundDiv_near (positive : 0 < b) : |(roundDiv a b : ℚ) - a / b| ≤ 1 / 2 := by
  have whole : (a : ℚ) = (a / b : Nat) * b + (a % b : Nat) := by exact_mod_cast (Nat.div_add_mod' a b).symm
  have divisor : (0 : ℚ) < b := by exact_mod_cast positive
  rw [← mul_le_mul_iff_left₀ divisor, ← abs_of_pos divisor, ← abs_mul, abs_of_pos divisor, sub_mul,
    div_mul_cancel₀ _ divisor.ne', abs_le]
  rcases roundDiv_cases a b with ⟨rounded, half⟩ | ⟨rounded, half⟩
  · have half : 2 * ((a % b : Nat) : ℚ) ≤ b := by exact_mod_cast half
    have left : (0 : ℚ) ≤ (a % b : Nat) := Nat.cast_nonneg _
    rw [rounded]
    constructor <;> linarith
  · have half : (b : ℚ) ≤ 2 * (a % b : Nat) := by exact_mod_cast half
    have left : ((a % b : Nat) : ℚ) < b := by exact_mod_cast Nat.mod_lt a positive
    rw [rounded, Nat.cast_add, Nat.cast_one, add_mul]
    constructor <;> linarith

theorem roundDiv_mul_right (a b : Nat) {k : Nat} (positive : 0 < k) : roundDiv (a * k) (b * k) = roundDiv a b := by
  have twice : 2 * (a % b * k) = 2 * (a % b) * k := (Nat.mul_assoc ..).symm
  simp only [roundDiv, Nat.mul_div_mul_right _ _ positive, Nat.mul_mod_mul_right, twice,
    Nat.mul_lt_mul_right positive]

namespace Binary64

/-- Rounding does not look at how a quotient is written. -/
theorem roundUnits_mul_right (a b : Nat) {k : Nat} (positive : 0 < k) :
    roundUnits (a * k) (b * k) = roundUnits a b := by
  simp only [roundUnits, Nat.mul_div_mul_right _ _ positive, Nat.mul_right_comm b k,
    roundDiv_mul_right a _ positive]

/-- From a count to the next it is at most one part in two to the fifty-second, or one unit. -/
theorem step_le (units : Nat) : (Nat.pow 2 (droppedBits units) : ℚ) ≤ units / 2 ^ 52 + 1 := by
  have natural : Nat.pow 2 (droppedBits units) * 2 ^ 52 ≤ units + 2 ^ 52 := by
    rw [droppedBits, Nat.pow_eq, ← Nat.pow_add]
    by_cases small : units.log2 ≤ 52
    · rw [Nat.sub_eq_zero_of_le small, Nat.zero_add]
      exact Nat.le_add_left _ _
    · have nonzero : units ≠ 0 := by
        rintro rfl
        exact small (by decide)
      rw [Nat.sub_add_cancel (by omega)]
      exact (Nat.log2_self_le nonzero).trans (Nat.le_add_right _ _)
  have rational : (Nat.pow 2 (droppedBits units) : ℚ) * 2 ^ 52 ≤ units + 2 ^ 52 := by exact_mod_cast natural
  linarith

/-- A count is rounded by at most one part in two to the fifty-third, and half a unit. -/
theorem roundUnits_near (positive : 0 < b) : |(roundUnits a b : ℚ) - a / b| ≤ (a / b : ℚ) / 2 ^ 53 + 1 / 2 := by
  set step := Nat.pow 2 (droppedBits (a / b)) with named
  have stepPositive : 0 < step := Nat.two_pow_pos _
  have factor : (0 : ℚ) < step := by exact_mod_cast stepPositive
  have near := roundDiv_near (a := a) (Nat.mul_pos positive stepPositive)
  have bounded : (step : ℚ) ≤ a / b / 2 ^ 52 + 1 :=
    (step_le (a / b)).trans (by gcongr; exact Nat.cast_div_le)
  have scaled : (roundUnits a b : ℚ) - a / b = (roundDiv a (b * step) - (a : ℚ) / (b * step : Nat)) * step := by
    have divisor : (b : ℚ) ≠ 0 := by exact_mod_cast positive.ne'
    rw [roundUnits, ← named]
    push_cast
    field_simp
  rw [scaled, abs_mul, abs_of_pos factor]
  calc _ ≤ 1 / 2 * (step : ℚ) := by gcongr
    _ ≤ _ := by linarith

/-- Rounding does not lead beyond twice a bound. -/
theorem roundUnits_le {k : Nat} (positive : 0 < b) (nonzero : 0 < k) (small : a ≤ k * b) :
    roundUnits a b ≤ 2 * k := by
  have near := (abs_le.mp (roundUnits_near (a := a) positive)).2
  have divisor : (0 : ℚ) < b := by exact_mod_cast positive
  have bounded : (a / b : ℚ) ≤ k := (div_le_iff₀ divisor).mpr (by exact_mod_cast small)
  have atLeast : (1 : ℚ) ≤ k := by exact_mod_cast nonzero
  have twice : (roundUnits a b : ℚ) ≤ 2 * k := by linarith
  exact_mod_cast twice

end Binary64

end Quotients

/-! ## The values of results -/

theorem withSign_mul_withSign (p q : Bool) (a b : Nat) :
    withSign p a * withSign q b = withSign (p != q) (a * b) := by
  cases p <;> cases q <;> simp [withSign]

theorem withSign_natAbs_mul (n : Int) (k : Nat) :
    withSign (decide (n < 0) && n != 0) (n.natAbs * k) = n * k := by
  rcases lt_trichotomy n 0 with below | rfl | above
  · simp [withSign, below, below.ne, abs_of_neg below]
  · simp [withSign]
  · simp [withSign, above.le.not_gt, abs_of_pos above]

namespace Binary64

/-- Whether a value is the exact one rounded: what is lost is at most one part in two to the fifty-third of it, and half
a unit. -/
def IsNear (value exact : ℚ) : Prop :=
  |value - exact| ≤ |exact| / 2 ^ 53 + 1 / (2 * unitsPerOne)

variable {negative : Bool} {a b : Nat} {x y number : Binary64} {p q value : ℚ}

theorem two_pow_le_unitsPerOne : (2 : ℚ) ^ 200 ≤ unitsPerOne := by
  have natural : 2 ^ 200 ≤ unitsPerOne := by
    unfold unitsPerOne
    -- the power is too great to be evaluated
    generalize named : 1074 = exponent
    exact Nat.pow_le_pow_right (by decide) (by omega)
  exact_mod_cast natural

theorem unitsPerOne_cast_pos : (0 : ℚ) < unitsPerOne :=
  lt_of_lt_of_le (by norm_num) two_pow_le_unitsPerOne

theorem half_unit_le : 1 / (2 * (unitsPerOne : ℚ)) ≤ 1 / 2 ^ 200 := by
  have great := two_pow_le_unitsPerOne
  have positive := unitsPerOne_cast_pos
  gcongr
  linarith

theorem toRat?_eq_some : number.toRat? = some value ↔
    ∃ negative units, number = .finite negative units ∧ value = withSign negative units / unitsPerOne := by
  cases number with
  | nan => exact iff_of_false (by rintro ⟨⟩) (by rintro ⟨_, _, ⟨⟩, _⟩)
  | infinite => exact iff_of_false (by rintro ⟨⟩) (by rintro ⟨_, _, ⟨⟩, _⟩)
  | finite sign count =>
    rw [toRat?, Rat.mkRat_eq_div, Option.some.injEq]
    constructor
    · exact fun same => ⟨sign, count, rfl, same.symm⟩
    · rintro ⟨_, _, ⟨⟩, same⟩
      exact same.symm

/-- Only a finite number is rounded down to a whole one, and its value is. -/
theorem floor?_eq_some {n : Int} : number.floor? = some n ↔ ∃ value, number.toRat? = some value ∧ n = ⌊value⌋ := by
  cases number with
  | nan => simp [floor?, toRat?]
  | infinite negative => simp [floor?, toRat?]
  | finite negative units =>
    simp only [floor?, toRat?, Option.some.injEq, Rat.mkRat_eq_div, exists_eq_left', Rat.floor_intCast_div_natCast]
    exact eq_comm

/-- What is lost of a count of units is lost of the value. -/
theorem abs_div_sub_div_le {rounded exact scale : ℚ} (near : |rounded - exact| ≤ exact / 2 ^ 53 + 1 / 2)
    (notNegative : 0 ≤ exact) (positive : 0 < scale) :
    |rounded / scale - exact / scale| ≤ |exact / scale| / 2 ^ 53 + 1 / (2 * scale) := by
  rw [← sub_div, abs_div, abs_div, abs_of_pos positive, abs_of_nonneg notNegative]
  calc _ ≤ (exact / 2 ^ 53 + 1 / 2) / scale := by gcongr
    _ = _ := by field_simp

theorem ofUnits_of_lt (finite : roundUnits a b < unitsLimit) :
    ofUnits negative a b = .finite negative (roundUnits a b) := by
  simp only [ofUnits, finite, if_true]

theorem exists_ofQuotient? {dividend divisor : Int} (nonzero : divisor ≠ 0)
    (finite : roundUnits (dividend.natAbs * unitsPerOne) divisor.natAbs < unitsLimit) :
    ∃ sign, ofQuotient? dividend divisor =
      some (.finite sign (roundUnits (dividend.natAbs * unitsPerOne) divisor.natAbs)) := by
  have rounded : ∀ sign, ofRatio sign dividend.natAbs divisor.natAbs =
      .finite sign (roundUnits (dividend.natAbs * unitsPerOne) divisor.natAbs) := fun sign => ofUnits_of_lt finite
  refine ⟨(decide (dividend < 0) != decide (divisor < 0)) && dividend != 0, ?_⟩
  rw [ofQuotient?, if_neg nonzero]
  simp only [rounded]

theorem ofUnits_near (positive : 0 < b) (finite : (ofUnits negative a b).toRat? = some value) :
    IsNear value (withSign negative a / b / unitsPerOne) := by
  have near := abs_div_sub_div_le (roundUnits_near (a := a) positive) (by positivity) unitsPerOne_cast_pos
  obtain ⟨sign, count, same, rfl⟩ := toRat?_eq_some.mp finite
  rw [ofUnits] at same
  split at same
  case isFalse => cases same
  cases same
  cases negative with
  | false => exact near
  | true =>
    rw [IsNear, withSign, if_pos rfl, withSign, if_pos rfl, Int.cast_neg, Int.cast_neg, neg_div, neg_div, neg_div,
      abs_neg, ← neg_sub', abs_neg]
    exact near

/-- A rational number comes out near to itself. -/
theorem ofRat_near {exact : ℚ} (finite : (ofRat exact).toRat? = some value) : IsNear value exact := by
  rw [ofRat, ofRatio] at finite
  have near := ofUnits_near exact.den_pos finite
  have signed : withSign (decide (exact < 0)) (exact.num.natAbs * unitsPerOne) = exact.num * unitsPerOne := by
    rw [← withSign_natAbs_mul]
    rcases lt_or_ge exact 0 with below | above
    · have numerator : exact.num < 0 := Rat.num_neg.mpr below
      rw [decide_eq_true below, decide_eq_true numerator, bne_iff_ne.mpr numerator.ne, Bool.and_self]
    · have numerator : 0 ≤ exact.num := Rat.num_nonneg.mpr above
      rw [decide_eq_false above.not_gt, decide_eq_false numerator.not_gt, Bool.false_and]
  rwa [signed, Int.cast_mul, Int.cast_natCast, div_right_comm,
    mul_div_cancel_right₀ _ unitsPerOne_cast_pos.ne', Rat.num_div_den] at near

/-- A quotient of whole numbers comes out near to the exact one. -/
theorem ofQuotient?_near {dividend divisor : Int} (positive : 0 < divisor)
    (finite : ofQuotient? dividend divisor = some number) :
    ∃ value, number.toRat? = some value ∧ IsNear value (dividend / divisor) := by
  set negative := decide (dividend < 0) && dividend != 0 with signed
  have rounded : number = ofUnits negative (dividend.natAbs * unitsPerOne) divisor.natAbs ∧
      ∃ value, number.toRat? = some value := by
    have notBelow : decide (divisor < 0) = false := decide_eq_false positive.le.not_gt
    rw [ofQuotient?, if_neg positive.ne', notBelow, Bool.bne_false] at finite
    simp only [← signed] at finite
    split at finite
    next sign units same =>
      cases finite
      exact ⟨same.symm, _, rfl⟩
    next => cases finite
  obtain ⟨same, value, isValue⟩ := rounded
  refine ⟨value, isValue, ?_⟩
  have near := ofUnits_near (by omega) (same ▸ isValue)
  have divisorSame : (divisor.natAbs : ℚ) = divisor := by
    rw [← Int.cast_natCast, Int.natAbs_of_nonneg positive.le]
  rw [withSign_natAbs_mul, divisorSame, Int.cast_mul, Int.cast_natCast, div_right_comm,
    mul_div_cancel_right₀ _ unitsPerOne_cast_pos.ne'] at near
  exact near

theorem ofQuotient?_mul_right (dividend : Int) {divisor k : Int} (nonzero : divisor ≠ 0) (positive : 0 < k) :
    ofQuotient? (dividend * k) (divisor * k) = ofQuotient? dividend divisor := by
  have isNegative : ∀ n : Int, decide (n * k < 0) = decide (n < 0) := fun n =>
    decide_eq_decide.mpr (by rw [← mul_lt_mul_iff_left₀ positive (b := n), zero_mul])
  have isZero : (dividend * k != 0) = (dividend != 0) := by
    rw [Bool.eq_iff_iff, bne_iff_ne, bne_iff_ne, mul_ne_zero_iff_right positive.ne']
  have rounded : ∀ negative, ofRatio negative (dividend * k).natAbs (divisor * k).natAbs =
      ofRatio negative dividend.natAbs divisor.natAbs := fun negative => by
    have nonzero : 0 < k.natAbs := by omega
    simp only [ofRatio, ofUnits, Int.natAbs_mul, Nat.mul_right_comm, roundUnits_mul_right _ _ nonzero]
  simp only [ofQuotient?, isNegative, isZero, rounded, nonzero, mul_eq_zero, positive.ne', or_self, if_false]

/-- A quotient that is the same number comes out the same. -/
theorem ofQuotient?_eq_of_mul_eq {n m k l : Int} (left : 0 < m) (right : 0 < l) (same : n * l = k * m) :
    ofQuotient? n m = ofQuotient? k l := by
  rw [← ofQuotient?_mul_right n left.ne' right, ← ofQuotient?_mul_right k right.ne' left, same, mul_comm l m]

/-- A product comes out near to the exact one. -/
theorem mul_near (left : x.toRat? = some p) (right : y.toRat? = some q) (finite : (x.mul y).toRat? = some value) :
    IsNear value (p * q) := by
  obtain ⟨leftSign, leftUnits, rfl, rfl⟩ := toRat?_eq_some.mp left
  obtain ⟨rightSign, rightUnits, rfl, rfl⟩ := toRat?_eq_some.mp right
  have positive : 0 < unitsPerOne := by exact_mod_cast unitsPerOne_cast_pos
  rw [mul] at finite
  have near := ofUnits_near positive finite
  rw [← withSign_mul_withSign, Int.cast_mul, mul_div_assoc, mul_div_right_comm] at near
  exact near

end Binary64

/-! ## The order of results -/

section Order

variable {a b c d : Nat}

theorem roundDiv_mono_left (positive : 0 < b) (notMore : a ≤ c) : roundDiv a b ≤ roundDiv c b := by
  rcases notMore.eq_or_lt with rfl | less
  · exact le_rfl
  by_contra above
  have next : ((roundDiv c b : ℚ) + 1) ≤ roundDiv a b := by exact_mod_cast Nat.lt_of_not_le above
  have left := (abs_le.mp (roundDiv_near (a := a) positive)).2
  have right := (abs_le.mp (roundDiv_near (a := c) positive)).1
  have divisor : (0 : ℚ) < b := by exact_mod_cast positive
  have strict : (a / b : ℚ) < c / b := (div_lt_div_iff_of_pos_right divisor).mpr (by exact_mod_cast less)
  linarith

/-- A greater quotient is not rounded to less. -/
theorem roundDiv_mono (left : 0 < b) (right : 0 < d) (notMore : a * d ≤ c * b) : roundDiv a b ≤ roundDiv c d := by
  rw [← roundDiv_mul_right a b right, ← roundDiv_mul_right c d left, Nat.mul_comm d b]
  exact roundDiv_mono_left (Nat.mul_pos left right) notMore

theorem roundDiv_mul_self (k : Nat) (positive : 0 < b) : roundDiv (k * b) b = k := by
  simp [roundDiv, Nat.mul_div_cancel _ positive, positive]

namespace Binary64

theorem droppedBits_mono {m n : Nat} (notMore : m ≤ n) : droppedBits m ≤ droppedBits n := by
  rcases Nat.eq_zero_or_pos m with rfl | positive
  · exact Nat.zero_le _
  · exact Nat.sub_le_sub_right
      ((Nat.le_log2 (by omega)).mpr ((Nat.log2_self_le positive.ne').trans notMore)) 52

/-- A count is not rounded beyond the next power of two. -/
theorem roundUnits_le_pow (positive : 0 < b) : roundUnits a b ≤ 2 ^ (53 + droppedBits (a / b)) := by
  have below : a / b < 2 ^ (53 + droppedBits (a / b)) :=
    Nat.lt_log2_self.trans_le (Nat.pow_le_pow_right (by decide) (by rw [droppedBits]; omega))
  rw [roundUnits, Nat.pow_eq, Nat.pow_add]
  refine Nat.mul_le_mul_right _ ?_
  have step : 0 < b * 2 ^ droppedBits (a / b) := Nat.mul_pos positive (Nat.two_pow_pos _)
  calc roundDiv a (b * 2 ^ droppedBits (a / b))
      ≤ roundDiv (2 ^ 53 * (b * 2 ^ droppedBits (a / b))) (b * 2 ^ droppedBits (a / b)) := by
        refine roundDiv_mono_left step ?_
        rw [Nat.mul_left_comm, ← Nat.pow_add, Nat.mul_comm]
        exact ((Nat.div_lt_iff_lt_mul positive).mp below).le
    _ = 2 ^ 53 := roundDiv_mul_self _ step

/-- A count that loses digits is not rounded below the power of two that it has passed. -/
theorem pow_le_roundUnits (positive : 0 < b) (loses : 0 < droppedBits (a / b)) :
    2 ^ (52 + droppedBits (a / b)) ≤ roundUnits a b := by
  have above : 2 ^ (52 + droppedBits (a / b)) ≤ a / b := by
    have nonzero : a / b ≠ 0 := by
      intro zero
      rw [zero] at loses
      exact absurd loses (by decide)
    refine (Nat.pow_le_pow_right (by decide) ?_).trans (Nat.log2_self_le nonzero)
    rw [droppedBits] at loses ⊢
    omega
  rw [roundUnits, Nat.pow_eq, Nat.pow_add]
  refine Nat.mul_le_mul_right _ ?_
  have step : 0 < b * 2 ^ droppedBits (a / b) := Nat.mul_pos positive (Nat.two_pow_pos _)
  calc 2 ^ 52 = roundDiv (2 ^ 52 * (b * 2 ^ droppedBits (a / b))) (b * 2 ^ droppedBits (a / b)) :=
        (roundDiv_mul_self _ step).symm
    _ ≤ roundDiv a (b * 2 ^ droppedBits (a / b)) := by
        refine roundDiv_mono_left step ?_
        rw [Nat.mul_left_comm, ← Nat.pow_add, Nat.mul_comm]
        exact (Nat.le_div_iff_mul_le positive).mp above

/-- A greater count is not rounded to less. -/
theorem roundUnits_mono (left : 0 < b) (right : 0 < d) (notMore : a * d ≤ c * b) :
    roundUnits a b ≤ roundUnits c d := by
  have floors : a / b ≤ c / d := by
    rw [Nat.le_div_iff_mul_le right]
    refine Nat.le_of_mul_le_mul_right ?_ left
    calc a / b * d * b = a / b * b * d := Nat.mul_right_comm ..
      _ ≤ a * d := Nat.mul_le_mul_right _ (Nat.div_mul_le_self a b)
      _ ≤ c * b := notMore
  rcases (droppedBits_mono floors).eq_or_lt with same | more
  · rw [roundUnits, roundUnits, same]
    have step : 0 < Nat.pow 2 (droppedBits (c / d)) := Nat.two_pow_pos _
    refine Nat.mul_le_mul_right _ (roundDiv_mono (Nat.mul_pos left step) (Nat.mul_pos right step) ?_)
    rw [← Nat.mul_assoc, ← Nat.mul_assoc]
    exact Nat.mul_le_mul_right _ notMore
  · calc roundUnits a b ≤ 2 ^ (53 + droppedBits (a / b)) := roundUnits_le_pow left
      _ ≤ 2 ^ (52 + droppedBits (c / d)) := Nat.pow_le_pow_right (by decide) (by omega)
      _ ≤ roundUnits c d := pow_le_roundUnits right (by omega)

variable {negative : Bool} {x y bound : ℚ}

theorem isAtMost_finite (negative : Bool) (units : Nat) :
    (finite negative units).isAtMost bound = true ↔ (withSign negative units : ℚ) / unitsPerOne ≤ bound := by
  rw [isAtMost, decide_eq_true_iff, Rat.mkRat_eq_div]

theorem isAtMost_ofUnits_false :
    (ofUnits false a b).isAtMost bound = true ↔
      roundUnits a b < unitsLimit ∧ (roundUnits a b : ℚ) / unitsPerOne ≤ bound := by
  rw [ofUnits]
  split
  case isTrue finite =>
    rw [isAtMost_finite, withSign, if_neg Bool.false_ne_true, Int.cast_natCast]
    exact (and_iff_right finite).symm
  case isFalse infinite => exact iff_of_false Bool.false_ne_true fun both => infinite both.1

theorem isAtMost_ofUnits_true :
    (ofUnits true a b).isAtMost bound = true ↔
      (roundUnits a b < unitsLimit → -(roundUnits a b : ℚ) / unitsPerOne ≤ bound) := by
  rw [ofUnits]
  split
  case isTrue finite =>
    rw [isAtMost_finite, withSign, if_pos rfl, Int.cast_neg, Int.cast_natCast]
    exact ⟨fun reached _ => reached, fun reached => reached finite⟩
  case isFalse infinite => exact iff_of_true rfl fun finite => absurd finite infinite

/-- A number farther from zero is not rounded to a nearer one. -/
theorem roundUnits_mono_of_abs (notFarther : |x| ≤ |y|) :
    roundUnits (x.num.natAbs * unitsPerOne) x.den ≤ roundUnits (y.num.natAbs * unitsPerOne) y.den := by
  have left : (0 : ℤ) < x.den := by exact_mod_cast x.den_pos
  have right : (0 : ℤ) < y.den := by exact_mod_cast y.den_pos
  rw [Rat.abs_def, Rat.abs_def, Rat.divInt_le_divInt left right] at notFarther
  have magnitudes : x.num.natAbs * y.den ≤ y.num.natAbs * x.den := by exact_mod_cast notFarther
  refine roundUnits_mono x.den_pos y.den_pos ?_
  rw [Nat.mul_right_comm, Nat.mul_right_comm _ unitsPerOne]
  exact Nat.mul_le_mul_right _ magnitudes

/-- A greater number is not rounded to less. -/
theorem isAtMost_ofRat_of_le (notMore : x ≤ y) (reached : (ofRat y).isAtMost bound = true) :
    (ofRat x).isAtMost bound = true := by
  have units := unitsPerOne_cast_pos
  rw [ofRat, ofRatio] at reached ⊢
  rcases lt_or_ge x 0 with below | above <;> rcases lt_or_ge y 0 with belowToo | aboveToo
  · rw [decide_eq_true below, isAtMost_ofUnits_true]
    rw [decide_eq_true belowToo, isAtMost_ofUnits_true] at reached
    have rounded := roundUnits_mono_of_abs (abs_le_abs_of_nonpos belowToo.le notMore)
    intro finite
    refine le_trans ?_ (reached (rounded.trans_lt finite))
    exact (div_le_div_iff_of_pos_right units).mpr (neg_le_neg (Nat.cast_le.mpr rounded))
  · rw [decide_eq_true below, isAtMost_ofUnits_true]
    rw [decide_eq_false aboveToo.not_gt, isAtMost_ofUnits_false] at reached
    intro _
    refine le_trans ?_ reached.2
    exact (div_le_div_iff_of_pos_right units).mpr
      ((neg_nonpos.mpr (Nat.cast_nonneg _)).trans (Nat.cast_nonneg _))
  · exact absurd notMore (belowToo.trans_le above).not_ge
  · rw [decide_eq_false above.not_gt, isAtMost_ofUnits_false]
    rw [decide_eq_false aboveToo.not_gt, isAtMost_ofUnits_false] at reached
    have rounded := roundUnits_mono_of_abs (abs_le_abs_of_nonneg above notMore)
    refine ⟨rounded.trans_lt reached.1, le_trans ?_ reached.2⟩
    exact (div_le_div_iff_of_pos_right units).mpr (Nat.cast_le.mpr rounded)

/-- A number that is at most a bound is at most every greater one. -/
theorem isAtMost_of_le {number : Binary64} {greater : ℚ} (reached : number.isAtMost bound = true)
    (notLess : bound ≤ greater) : number.isAtMost greater = true := by
  cases number with
  | nan => exact reached
  | infinite negative => exact reached
  | finite negative units =>
    rw [isAtMost, decide_eq_true_eq] at reached ⊢
    exact reached.trans notLess

end Binary64

end Order

end Obligations.Number
