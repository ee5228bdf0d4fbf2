import Obligations.Proofs.Number.Rounding
import Obligations.Proofs.Subject.Conversion

/-! # The risk and its formula

By the formula, the part of the risk for days of unemployment is fifty times their share of the allowance, rounded
down. What is computed rounds the share to a float first and the product after it. What that loses is far below one
point, and counts only where the exact number of points is a whole one: the product may come out just below it, and a
whole point is lost. Between none and a hundred points this is so of 29, 57 and 58 points, whatever the allowance is.
-/

namespace Obligations

open Obligations.Calendar Obligations.Number

/-! ## The formula -/

/-- The points for days of unemployment by the formula: fifty times their share of the allowance, rounded down. -/
def unemploymentPoints (used allowance : Int) : Int :=
  if allowance ≤ 0 then 0 else 50 * used / allowance

/-- The points of a subject in all: ten for a task that is overdue, fifteen for an expired document, those for days of
unemployment, and twenty for a passport that expires too soon. -/
def pointsInAll (today : Date) (overdue expired points : Int) (passportExpiry : Option Date) : Int :=
  10 * overdue + 15 * expired + points +
    (if passportExpiry.any (today.daysUntil · < passportRiskDays) then 20 else 0)

/-- The risk for points in all. -/
def limited (points : Int) : Int :=
  max 0 (min points riskLimit)

def riskByFormula (today : Date) (overdue expired used allowance : Int) (passportExpiry : Option Date) : Int :=
  limited (pointsInAll today overdue expired (unemploymentPoints used allowance) passportExpiry)

/-- Whether the days of unemployment earn a number of points that comes out one too small. -/
def LosesPoint (used allowance : Int) : Prop :=
  0 < allowance ∧ (50 * used = 29 * allowance ∨ 50 * used = 57 * allowance ∨ 50 * used = 58 * allowance)

instance (used allowance : Int) : Decidable (LosesPoint used allowance) :=
  inferInstanceAs (Decidable (_ ∧ _))

/-- In practical training no number of days loses a point. -/
theorem not_losesPoint_opt (used : Int) : ¬ LosesPoint used optUnemploymentDays := by
  unfold LosesPoint optUnemploymentDays
  omega

/-- In extended practical training three numbers of days lose a point. -/
theorem losesPoint_stemOpt_iff {used : Int} :
    LosesPoint used stemOptUnemploymentDays ↔ used = 87 ∨ used = 171 ∨ used = 174 := by
  unfold LosesPoint stemOptUnemploymentDays
  omega

theorem losesPoint_iff_of_eq {used allowance whole : Int} (positive : 0 < allowance)
    (same : 50 * used = allowance * whole) : LosesPoint used allowance ↔ whole = 29 ∨ whole = 57 ∨ whole = 58 := by
  have isWhole : ∀ n : Int, 50 * used = n * allowance ↔ whole = n := fun n => by
    rw [same, mul_comm n, Int.mul_eq_mul_left_iff positive.ne']
  rw [LosesPoint, isWhole, isWhole, isWhole, and_iff_right positive]

theorem LosesPoint.le_unemploymentPoints {used allowance : Int} (loses : LosesPoint used allowance) :
    29 ≤ unemploymentPoints used allowance := by
  obtain ⟨positive, same⟩ := loses
  rw [unemploymentPoints, if_neg positive.not_ge, Int.le_ediv_iff_mul_le positive]
  omega

/-! ## The product, rounded twice -/

section Product

variable {used allowance points : Int}

theorem fifty_eq : Binary64.ofDecimal false 50 0 = .finite false (50 * Binary64.unitsPerOne) := by
  decide +kernel

theorem toRat?_fifty : (Binary64.ofDecimal false 50 0).toRat? = some 50 := by
  refine Binary64.toRat?_eq_some.mpr ⟨_, _, fifty_eq, ?_⟩
  have nonzero := Binary64.unitsPerOne_cast_pos.ne'
  rw [withSign, if_neg Bool.false_ne_true, Int.cast_natCast, Nat.cast_mul, mul_div_cancel_right₀ _ nonzero]
  rfl

theorem unemploymentRisk_of_pos (positive : 0 < allowance) : unemploymentRisk used allowance = .ok points ↔
    ∃ share, Binary64.ofQuotient? used allowance = some share ∧
      (share.mul (Binary64.ofDecimal false 50 0)).floor? = some points := by
  rw [unemploymentRisk, if_neg positive.not_ge]
  cases Binary64.ofQuotient? used allowance with
  | none => simp [Outcome.mishap]
  | some share =>
    generalize Binary64.ofDecimal false 50 0 = fifty
    cases floored : (share.mul fifty).floor? <;> simp [Outcome.mishap, floored]

/-- Only the share matters, not the numbers it is the share of. -/
theorem unemploymentRisk_eq_of_mul_eq {otherUsed otherAllowance : Int} (positive : 0 < allowance)
    (otherPositive : 0 < otherAllowance) (same : used * otherAllowance = otherUsed * allowance) :
    unemploymentRisk used allowance = unemploymentRisk otherUsed otherAllowance := by
  rw [unemploymentRisk, unemploymentRisk, if_neg positive.not_ge, if_neg otherPositive.not_ge,
    Binary64.ofQuotient?_eq_of_mul_eq positive otherPositive same]

theorem near_of_isNear {share rounded product : ℚ} (near : Binary64.IsNear rounded share)
    (nearProduct : Binary64.IsNear product (rounded * 50)) :
    |product - 50 * share| ≤ |50 * share| / 2 ^ 51 + 1 / 2 ^ 100 := by
  have small := Binary64.half_unit_le
  rw [Binary64.IsNear] at near nearProduct
  have triangle : |product - 50 * share| ≤ |product - rounded * 50| + 50 * |rounded - share| :=
    calc |product - 50 * share| = |(product - rounded * 50) + 50 * (rounded - share)| := by ring_nf
      _ ≤ |product - rounded * 50| + |50 * (rounded - share)| := abs_add_le _ _
      _ = _ := by rw [abs_mul, abs_of_pos (by norm_num : (0 : ℚ) < 50)]
  have size : |rounded| ≤ |rounded - share| + |share| := by
    simpa using abs_add_le (rounded - share) share
  have fifty : |(50 : ℚ)| = 50 := abs_of_pos (by norm_num)
  rw [abs_mul, fifty] at nearProduct
  rw [abs_mul, fifty]
  have notNegative := abs_nonneg share
  linarith

/-- Rounded twice, the product is off by at most one part in two to the fifty-first of it, and next to nothing. -/
theorem exists_product (positive : 0 < allowance) (earned : unemploymentRisk used allowance = .ok points) :
    ∃ product : ℚ, points = ⌊product⌋ ∧
      |product - 50 * (used / allowance)| ≤ |50 * (used / allowance : ℚ)| / 2 ^ 51 + 1 / 2 ^ 100 := by
  obtain ⟨share, quotient, floored⟩ := (unemploymentRisk_of_pos positive).mp earned
  obtain ⟨product, isProduct, rounded⟩ := Binary64.floor?_eq_some.mp floored
  obtain ⟨value, isValue, near⟩ := Binary64.ofQuotient?_near positive quotient
  exact ⟨product, rounded, near_of_isNear near (Binary64.mul_near isValue toRat?_fifty isProduct)⟩

theorem reach_lt_unitsLimit : 2 * (2 * (2 ^ 1000 * Binary64.unitsPerOne) * 50) < Binary64.unitsLimit := by
  decide +kernel

/-- Up to a number of days that has no meaning any more, the share and the product are finite. -/
theorem exists_points (allowance : Int) (reach : used.natAbs ≤ 2 ^ 1000) :
    ∃ points, unemploymentRisk used allowance = .ok points := by
  by_cases positive : 0 < allowance
  case neg => exact ⟨0, if_pos (not_lt.mp positive)⟩
  have unitsPositive : 0 < Binary64.unitsPerOne := by exact_mod_cast Binary64.unitsPerOne_cast_pos
  have powerPositive (n : Nat) : 0 < 2 ^ n * Binary64.unitsPerOne := Nat.mul_pos (Nat.pow_pos two_pos) unitsPositive
  set units := Binary64.roundUnits (used.natAbs * Binary64.unitsPerOne) allowance.natAbs with rounded
  have unitsSmall : units ≤ 2 * (2 ^ 1000 * Binary64.unitsPerOne) :=
    Binary64.roundUnits_le (by omega) (powerPositive 1000) <|
      calc _ ≤ 2 ^ 1000 * Binary64.unitsPerOne := Nat.mul_le_mul_right _ reach
        _ ≤ _ := Nat.le_mul_of_pos_right _ (by omega)
  have productSmall : Binary64.roundUnits (units * (50 * Binary64.unitsPerOne)) Binary64.unitsPerOne <
      Binary64.unitsLimit := by
    refine lt_of_le_of_lt (Binary64.roundUnits_le unitsPositive ?_ ?_) reach_lt_unitsLimit
    · exact Nat.mul_pos (Nat.mul_pos two_pos (powerPositive 1000)) (by decide)
    · rw [← Nat.mul_assoc]
      exact Nat.mul_le_mul_right _ (Nat.mul_le_mul_right _ unitsSmall)
  have unitsFinite : units < Binary64.unitsLimit := by
    have limit := reach_lt_unitsLimit
    omega
  obtain ⟨sign, share⟩ := Binary64.exists_ofQuotient? positive.ne' unitsFinite
  have product : (Binary64.finite sign units).mul (Binary64.ofDecimal false 50 0) =
      .finite (sign != false) (Binary64.roundUnits (units * (50 * Binary64.unitsPerOne)) Binary64.unitsPerOne) := by
    rw [fifty_eq, Binary64.mul, Binary64.ofUnits_of_lt productSmall]
  exact ⟨_, (unemploymentRisk_of_pos positive).mpr ⟨_, share, congrArg Binary64.floor? product⟩⟩

/-- What comes to less than one off the dividend, times the divisor, is rounded down to the quotient. Only where nothing is
left over it may be one less. -/
theorem floor_of_near {n m : Int} {product : ℚ} (positive : 0 < m) (near : |m * product - n| < 1) :
    ⌊product⌋ = n / m ∨ m ∣ n ∧ ⌊product⌋ = n / m - 1 := by
  obtain ⟨above, below⟩ := abs_lt.mp near
  have divisor : (1 : ℚ) ≤ m := by exact_mod_cast positive
  have whole : (m * (n / m : Int) + (n % m : Int) : ℚ) = n := by exact_mod_cast Int.mul_ediv_add_emod n m
  have remainder : (0 : ℚ) ≤ (n % m : Int) := by exact_mod_cast Int.emod_nonneg n positive.ne'
  have remainderBelow : ((n % m : Int) : ℚ) + 1 ≤ m := by exact_mod_cast Int.emod_lt_of_pos n positive
  have upper : ⌊product⌋ < n / m + 1 := by
    rw [Int.floor_lt, ← mul_lt_mul_iff_right₀ (lt_of_lt_of_le one_pos divisor)]
    push_cast
    linarith
  have lower : n / m - 1 ≤ ⌊product⌋ := by
    rw [Int.le_floor, ← mul_le_mul_iff_right₀ (lt_of_lt_of_le one_pos divisor)]
    push_cast
    linarith
  by_cases divides : m ∣ n
  · omega
  · have left : (1 : ℚ) ≤ (n % m : Int) := by
      have nonzero : n % m ≠ 0 := fun zero => divides (Int.dvd_of_emod_eq_zero zero)
      have notNegative := Int.emod_nonneg n positive.ne'
      exact_mod_cast (by omega : 1 ≤ n % m)
    have exact : n / m ≤ ⌊product⌋ := by
      rw [Int.le_floor, ← mul_le_mul_iff_right₀ (lt_of_lt_of_le one_pos divisor)]
      linarith
    exact .inl (by omega)

theorem points_of_nonpos (none : allowance ≤ 0) (earned : unemploymentRisk used allowance = .ok points) :
    points = unemploymentPoints used allowance := by
  rw [unemploymentRisk, if_pos none] at earned
  rw [unemploymentPoints, if_pos none]
  exact (Except.ok.inj earned).symm

theorem unemploymentPoints_of_pos (positive : 0 < allowance) :
    unemploymentPoints used allowance = 50 * used / allowance :=
  if_neg positive.not_ge

/-- Up to some ten trillion days, the points are the exact ones unless these are a whole number to begin with. -/
theorem points_of_moderate (positive : 0 < allowance) (allowanceModerate : allowance ≤ 2 ^ 42)
    (usedModerate : |used| ≤ 2 ^ 44) (earned : unemploymentRisk used allowance = .ok points) :
    points = unemploymentPoints used allowance ∨
      allowance ∣ 50 * used ∧ points = unemploymentPoints used allowance - 1 := by
  obtain ⟨product, rfl, near⟩ := exists_product positive earned
  rw [unemploymentPoints_of_pos positive]
  refine floor_of_near positive ?_
  have divisor : (0 : ℚ) < allowance := by exact_mod_cast positive
  have notGreat : (allowance : ℚ) ≤ 2 ^ 42 := by exact_mod_cast allowanceModerate
  have usedNotGreat : |(used : ℚ)| ≤ 2 ^ 44 := by exact_mod_cast usedModerate
  have scaled : (allowance * product - (50 * used : Int) : ℚ) = allowance * (product - 50 * (used / allowance)) := by
    push_cast
    field_simp
  have cancelled : allowance * |(50 * (used / allowance) : ℚ)| = 50 * |(used : ℚ)| := by
    rw [abs_mul, abs_div, abs_of_pos divisor, abs_of_pos (by norm_num : (0 : ℚ) < 50)]
    field_simp
  rw [scaled, abs_mul, abs_of_pos divisor]
  calc _ ≤ (allowance : ℚ) * (|(50 * (used / allowance) : ℚ)| / 2 ^ 51 + 1 / 2 ^ 100) := by gcongr
    _ = 50 * |(used : ℚ)| / 2 ^ 51 + allowance / 2 ^ 100 := by rw [← cancelled]; ring
    _ < 1 := by linarith

/-- Behind a hundred points the exact number of points does not matter any more. -/
theorem points_of_great (positive : 0 < allowance) (great : 102 * allowance ≤ 50 * used)
    (earned : unemploymentRisk used allowance = .ok points) :
    riskLimit ≤ points ∧ riskLimit ≤ unemploymentPoints used allowance := by
  obtain ⟨product, rfl, near⟩ := exists_product positive earned
  have divisor : (0 : ℚ) < allowance := by exact_mod_cast positive
  have share : (102 : ℚ) ≤ 50 * (used / allowance) := by
    rw [← mul_div_assoc, le_div_iff₀ divisor]
    exact_mod_cast great
  rw [abs_of_nonneg (by linarith : (0 : ℚ) ≤ 50 * (used / allowance))] at near
  have atLeast := (abs_le.mp near).1
  constructor
  · rw [riskLimit, Int.le_floor]
    push_cast
    linarith
  · rw [riskLimit, unemploymentPoints_of_pos positive, Int.le_ediv_iff_mul_le positive]
    omega

theorem floor_share (used : Int) (positive : 0 < allowance) :
    ⌊(50 * (used / allowance) : ℚ)⌋ = unemploymentPoints used allowance := by
  obtain ⟨n, rfl⟩ := Int.eq_ofNat_of_zero_le positive.le
  rw [unemploymentPoints_of_pos positive, ← Rat.floor_intCast_div_natCast, ← mul_div_assoc]
  push_cast
  rfl

/-- What is less than one apart is rounded down to no more than one apart. -/
theorem abs_floor_sub_floor_le {product exact : ℚ} (close : |product - exact| < 1) : |⌊product⌋ - ⌊exact⌋| ≤ 1 := by
  obtain ⟨above, below⟩ := abs_lt.mp close
  have lower := Int.floor_le exact
  have upper := Int.lt_floor_add_one exact
  have floorUpper : ⌊product⌋ < ⌊exact⌋ + 2 := by
    rw [Int.floor_lt]
    push_cast
    linarith
  have floorLower : ⌊exact⌋ - 1 ≤ ⌊product⌋ := by
    rw [Int.le_floor]
    push_cast
    linarith
  rw [abs_le]
  omega

/-- No more than one point is lost or won, however great the numbers are, unless there is enough for the greatest risk
by far. -/
theorem points_of_share (positive : 0 < allowance) (notNegative : 0 ≤ used)
    (earned : unemploymentRisk used allowance = .ok points) :
    |points - unemploymentPoints used allowance| ≤ 1 ∨
      riskLimit ≤ points ∧ riskLimit ≤ unemploymentPoints used allowance := by
  rcases le_total (102 * allowance) (50 * used) with great | small
  · exact .inr (points_of_great positive great earned)
  left
  obtain ⟨product, rfl, near⟩ := exists_product positive earned
  have divisor : (0 : ℚ) < allowance := by exact_mod_cast positive
  have share : (50 * (used / allowance) : ℚ) ≤ 102 := by
    rw [← mul_div_assoc, div_le_iff₀ divisor]
    exact_mod_cast small
  have shareNotNegative : (0 : ℚ) ≤ 50 * (used / allowance) := by
    have usedNotNegative : (0 : ℚ) ≤ used := by exact_mod_cast notNegative
    positivity
  rw [abs_of_nonneg shareNotNegative] at near
  rw [← floor_share used positive]
  exact abs_floor_sub_floor_le (lt_of_le_of_lt near (by linarith))

theorem toOption_unemploymentRisk_fifty : ∀ n ∈ List.range 102, (unemploymentRisk n 50).toOption =
    some (if n = 29 ∨ n = 57 ∨ n = 58 then (n : Int) - 1 else n) := by
  decide +kernel

/-- Days of unemployment earn their exact points or, where these are 29, 57 or 58, one less. Behind a hundred points
they earn enough for the greatest risk. -/
theorem points_of_nonneg (positive : 0 < allowance) (allowanceModerate : allowance ≤ 2 ^ 42) (notNegative : 0 ≤ used)
    (earned : unemploymentRisk used allowance = .ok points) :
    points = unemploymentPoints used allowance - (if LosesPoint used allowance then 1 else 0) ∨
      ¬ LosesPoint used allowance ∧ riskLimit ≤ points ∧ riskLimit ≤ unemploymentPoints used allowance := by
  by_cases great : 102 * allowance ≤ 50 * used
  · refine .inr ⟨?_, points_of_great positive great earned⟩
    unfold LosesPoint
    omega
  have usedModerate : |used| ≤ 2 ^ 44 := by
    rw [abs_of_nonneg notNegative]
    omega
  left
  by_cases divides : allowance ∣ 50 * used
  case neg =>
    have keeps : ¬ LosesPoint used allowance := by
      rintro ⟨-, same | same | same⟩ <;> exact divides ⟨_, same.trans (mul_comm _ _)⟩
    rw [if_neg keeps, sub_zero]
    exact (points_of_moderate positive allowanceModerate usedModerate earned).resolve_right (divides ·.1)
  -- days that earn a whole number of points earn as much as that number of days out of fifty
  obtain ⟨whole, same⟩ := divides
  have exact : unemploymentPoints used allowance = whole := by
    rw [unemploymentPoints_of_pos positive, same, Int.mul_ediv_cancel_left _ positive.ne']
  have atLeast : 0 ≤ whole := Int.nonneg_of_mul_nonneg_right (by omega) positive
  have atMost : whole < 102 := Int.lt_of_mul_lt_mul_left (by omega) positive.le
  obtain ⟨n, rfl⟩ := Int.eq_ofNat_of_zero_le atLeast
  have ofFifty : unemploymentRisk n 50 = .ok points := by
    rw [← unemploymentRisk_eq_of_mul_eq positive (by decide) (by rw [mul_comm used, same, mul_comm]), earned]
  have listed := toOption_unemploymentRisk_fifty n (List.mem_range.mpr (by omega))
  rw [Outcome.toOption_eq_some.mpr ofFifty, Option.some.injEq] at listed
  simp only [losesPoint_iff_of_eq positive same, exact]
  split at listed <;> split <;> omega

end Product

/-! ## The risk -/

section Limit

variable {points others : Int}

theorem abs_limited_sub_limited_le (points others : Int) : |limited points - limited others| ≤ |points - others| := by
  have above := le_abs_self (points - others)
  have below := neg_abs_le (points - others)
  rw [limited, limited, abs_le]
  omega

theorem limited_of_great (great : riskLimit ≤ points) : limited points = riskLimit := by
  rw [limited, min_eq_right great]
  rfl

theorem limited_sub_one (points : Int) :
    limited (points - 1) = limited points - if 0 < points ∧ points ≤ riskLimit then 1 else 0 := by
  unfold limited riskLimit
  split <;> omega

end Limit

section Risk

variable (today : Date) (passportExpiry : Option Date) {overdue expired used allowance points : Int}

theorem riskOf_of_points (overdue expired : Int) (earned : unemploymentRisk used allowance = .ok points) :
    riskOf today overdue expired used allowance passportExpiry =
      .ok (limited (pointsInAll today overdue expired points passportExpiry)) := by
  refine Outcome.bind_eq_ok.mpr ⟨points, earned, ?_⟩
  cases passportExpiry <;> simp [limited, pointsInAll, mul_comm, pure, Except.pure]

/-- The points in all are those for days of unemployment and others, which are none or more. -/
theorem exists_others (overdueNotNegative : 0 ≤ overdue) (expiredNotNegative : 0 ≤ expired) :
    ∃ others, 0 ≤ others ∧ ∀ points, pointsInAll today overdue expired points passportExpiry = others + points := by
  refine ⟨pointsInAll today overdue expired 0 passportExpiry, ?_, fun points => ?_⟩
  · rw [pointsInAll]
    split <;> omega
  · rw [pointsInAll, pointsInAll]
    omega

/-- What is computed is never more than one away from the risk by the formula, however many days were used. For
allowances with a meaning it is one too small exactly where a point is lost and the points in all are no more than a
hundred, and else the risk by the formula. A number of days below zero, which no profile should have, may lose a point
too, but only where it earns a whole number of them. No risk comes out only where the share may be infinite. -/
theorem riskOf_isNearFormula (overdueNotNegative : 0 ≤ overdue) (expiredNotNegative : 0 ≤ expired) :
    riskOf today overdue expired used allowance passportExpiry = .mishap .tooLarge ∧ 2 ^ 1000 < used.natAbs ∨
      ∃ risk, riskOf today overdue expired used allowance passportExpiry = .ok risk ∧
        (0 ≤ used → |risk - riskByFormula today overdue expired used allowance passportExpiry| ≤ 1) ∧
        (allowance ≤ 2 ^ 42 → 0 ≤ used →
          risk = riskByFormula today overdue expired used allowance passportExpiry -
            if LosesPoint used allowance ∧
              pointsInAll today overdue expired (unemploymentPoints used allowance) passportExpiry ≤ riskLimit
            then 1 else 0) ∧
        (allowance ≤ 2 ^ 42 → |used| ≤ 2 ^ 44 →
          risk = riskByFormula today overdue expired used allowance passportExpiry ∨
            allowance ∣ 50 * used ∧ risk = riskByFormula today overdue expired used allowance passportExpiry - 1) := by
  rcases unemploymentRisk_cases used allowance with ⟨points, earned⟩ | tooLarge
  case inr =>
    refine .inl ⟨?_, lt_of_not_ge fun reach => ?_⟩
    · unfold riskOf
      rw [tooLarge]
      rfl
    · obtain ⟨points, earned⟩ := exists_points allowance reach
      rw [earned] at tooLarge
      cases tooLarge
  refine .inr ⟨_, riskOf_of_points today passportExpiry overdue expired earned, ?_⟩
  obtain ⟨others, othersNotNegative, inAll⟩ := exists_others today passportExpiry overdueNotNegative expiredNotNegative
  simp only [riskByFormula, inAll]
  by_cases positive : 0 < allowance
  case neg =>
    rw [points_of_nonpos (not_lt.mp positive) earned]
    simp [LosesPoint, positive]
  refine ⟨fun notNegative => ?_, fun allowanceModerate notNegative => ?_, fun allowanceModerate usedModerate => ?_⟩
  · rcases points_of_share positive notNegative earned with close | ⟨enough, exactEnough⟩
    · refine (abs_limited_sub_limited_le _ _).trans ?_
      rwa [add_sub_add_left_eq_sub]
    · rw [limited_of_great (by omega), limited_of_great (by omega)]
      simp
  · rcases points_of_nonneg positive allowanceModerate notNegative earned with same | ⟨keeps, enough, exactEnough⟩
    · by_cases loses : LosesPoint used allowance
      · have some := loses.le_unemploymentPoints
        rw [same, if_pos loses, ← add_sub_assoc, limited_sub_one]
        simp only [loses, true_and, (by omega : 0 < others + unemploymentPoints used allowance)]
      · rw [same, if_neg loses, if_neg (loses ·.1), sub_zero, sub_zero]
    · rw [limited_of_great (by omega), limited_of_great (by omega), if_neg (keeps ·.1), sub_zero]
  · rcases points_of_moderate positive allowanceModerate usedModerate earned with rfl | ⟨divides, rfl⟩
    · exact .inl rfl
    · rw [← add_sub_assoc, limited_sub_one]
      split
      · exact .inr ⟨divides, rfl⟩
      · exact .inl (sub_zero _)

end Risk

theorem riskOf_isNearFormula_extended : ((0 : Int) ≤ 1 ∧ (0 : Int) ≤ 2) ∧ ∃ risk,
    riskOf ⟨2024, 3, 1, by decide⟩ 1 2 87 150 none = .ok risk ∧
      risk = riskByFormula ⟨2024, 3, 1, by decide⟩ 1 2 87 150 none - 1 := by
  refine ⟨by decide, ?_⟩
  rcases @riskOf_isNearFormula ⟨2024, 3, 1, by decide⟩ none 1 2 87 150 (by decide) (by decide) with
    ⟨-, many⟩ | ⟨risk, computed, -, exact, -⟩
  · exact absurd many (by decide +kernel)
  · refine ⟨risk, computed, ?_⟩
    rw [exact (by decide) (by decide), if_pos (by decide)]

/-- On 87 of 150 days, which are 29 points, the share and the product are rounded to just below 29. -/
theorem riskOf_lt_formula_extended :
    riskOf ⟨2024, 3, 1, by decide⟩ 0 0 87 150 none = .ok 28 ∧
      riskByFormula ⟨2024, 3, 1, by decide⟩ 0 0 87 150 none = 29 :=
  ⟨Outcome.toOption_eq_some.mp (by decide +kernel), by decide⟩

end Obligations
