import ExQServe.Agent.Float

/-! # The decimals of floats

What a decimal is rounded to depends on its value alone, and the shortest decimal of a float
is rounded to the float. -/

namespace ExQServe.PyFloat

/-! ## Ratios -/

theorem scaleRatio_eq (numerator denominator : Nat) (exponent : Int) :
    ((scaleRatio numerator denominator exponent).1 : ℚ) /
        (scaleRatio numerator denominator exponent).2 =
      numerator / denominator * 2 ^ (-exponent) := by
  rw [scaleRatio]
  split
  · rename_i nonneg
    lift exponent to ℕ using nonneg
    rw [Int.toNat_natCast, zpow_neg, zpow_natCast]
    push_cast
    rw [div_mul_eq_div_div, div_eq_mul_inv (_ / _)]
  · rename_i negative
    have power : ((2 : ℚ) ^ (-exponent).toNat) = 2 ^ (-exponent) := by
      rw [← zpow_natCast, Int.toNat_of_nonneg (by omega)]
    push_cast
    rw [power, mul_div_right_comm]

theorem scaleRatio_mul (numerator denominator factor : Nat) (exponent : Int) :
    scaleRatio (numerator * factor) (denominator * factor) exponent =
      ((scaleRatio numerator denominator exponent).1 * factor,
        (scaleRatio numerator denominator exponent).2 * factor) := by
  rw [scaleRatio, scaleRatio]
  split
  · rw [mul_right_comm]
  · rw [mul_right_comm]

theorem scaleRatio_pos {denominator : Nat} (positive : 0 < denominator) (numerator : Nat)
    (exponent : Int) : 0 < (scaleRatio numerator denominator exponent).2 := by
  rw [scaleRatio]
  split
  · exact Nat.mul_pos positive (Nat.two_pow_pos _)
  · exact positive

theorem divideEven_mul {factor : Nat} (positive : 0 < factor) (numerator denominator : Nat) :
    divideEven (numerator * factor) (denominator * factor) = divideEven numerator denominator := by
  have twice (left right : Nat) : left * factor < 2 * (right * factor) ↔ left < 2 * right := by
    rw [← mul_assoc]
    exact Nat.mul_lt_mul_right positive
  have twiceEq (left right : Nat) : 2 * (left * factor) = right * factor ↔ 2 * left = right := by
    rw [← mul_assoc]
    exact Nat.mul_left_inj positive.ne'
  rw [divideEven, divideEven, Nat.mul_div_mul_right _ _ positive, Nat.mul_mod_mul_right]
  simp only [twice, twiceEq]

theorem divideEven_exact {denominator : Nat} (positive : 0 < denominator) (quotient : Nat) :
    divideEven (quotient * denominator) denominator = quotient := by
  rw [divideEven, Nat.mul_div_cancel _ positive, Nat.mul_mod_left]
  apply if_neg
  omega

/-! ## The binary logarithm -/

def ratioLog (numerator denominator : Nat) : Int :=
  let difference : Int := (Nat.log2 numerator : Int) - (Nat.log2 denominator : Int)
  let scaled := scaleRatio numerator denominator difference
  if scaled.2 ≤ scaled.1 then difference else difference - 1

theorem ratioExponent_eq (numerator denominator : Nat) :
    ratioExponent numerator denominator = max (ratioLog numerator denominator - 52) (-1074) := rfl

/-- A number between two powers of two has the lower exponent as its logarithm. -/
theorem log_eq_of_between {value : ℚ} {exponent : Int} (lower : 2 ^ exponent ≤ value)
    (upper : value < 2 ^ (exponent + 1)) : Int.log 2 value = exponent := by
  have positive : 0 < value := (zpow_pos two_pos exponent).trans_le lower
  have atLeast := (Int.zpow_le_iff_le_log one_lt_two positive).mp (by exact_mod_cast lower)
  have below := (Int.lt_zpow_iff_log_lt one_lt_two positive).mp (by exact_mod_cast upper)
  omega

theorem ratioLog_eq {numerator denominator : Nat} (top : 0 < numerator)
    (bottom : 0 < denominator) :
    ratioLog numerator denominator = Int.log 2 ((numerator : ℚ) / denominator) := by
  have topLower : (2 : ℚ) ^ (Nat.log2 numerator : Int) ≤ numerator := by
    exact_mod_cast Nat.log2_self_le top.ne'
  have topUpper : (numerator : ℚ) < 2 ^ ((Nat.log2 numerator : Int) + 1) := by
    exact_mod_cast Nat.lt_log2_self (n := numerator)
  have bottomLower : (2 : ℚ) ^ (Nat.log2 denominator : Int) ≤ denominator := by
    exact_mod_cast Nat.log2_self_le bottom.ne'
  have bottomUpper : (denominator : ℚ) < 2 ^ ((Nat.log2 denominator : Int) + 1) := by
    exact_mod_cast Nat.lt_log2_self (n := denominator)
  have bottomPositive : (0 : ℚ) < denominator := by exact_mod_cast bottom
  rw [ratioLog]
  generalize same : (Nat.log2 numerator : Int) - (Nat.log2 denominator : Int) = difference
  have lower : (2 : ℚ) ^ (difference - 1) ≤ numerator / denominator := by
    rw [le_div_iff₀ bottomPositive]
    calc (2 : ℚ) ^ (difference - 1) * denominator
        ≤ 2 ^ (difference - 1) * 2 ^ ((Nat.log2 denominator : Int) + 1) :=
          mul_le_mul_of_nonneg_left bottomUpper.le (zpow_nonneg two_pos.le _)
      _ = 2 ^ (Nat.log2 numerator : Int) := by
          rw [← zpow_add₀ two_ne_zero]
          congr 1
          omega
      _ ≤ numerator := topLower
  have upper : (numerator : ℚ) / denominator < 2 ^ (difference + 1) := by
    rw [div_lt_iff₀ bottomPositive]
    calc (numerator : ℚ) < 2 ^ ((Nat.log2 numerator : Int) + 1) := topUpper
      _ = 2 ^ (difference + 1) * 2 ^ (Nat.log2 denominator : Int) := by
          rw [← zpow_add₀ two_ne_zero]
          congr 1
          omega
      _ ≤ 2 ^ (difference + 1) * denominator :=
          mul_le_mul_of_nonneg_left bottomLower (zpow_nonneg two_pos.le _)
  have threshold : (scaleRatio numerator denominator difference).2 ≤
      (scaleRatio numerator denominator difference).1 ↔
        (2 : ℚ) ^ difference ≤ numerator / denominator := by
    have positive : (0 : ℚ) < (scaleRatio numerator denominator difference).2 := by
      exact_mod_cast scaleRatio_pos bottom numerator difference
    have scaled := scaleRatio_eq numerator denominator difference
    rw [← Nat.cast_le (α := ℚ), ← one_le_div positive, scaled, zpow_neg, ← div_eq_mul_inv,
      one_le_div (zpow_pos two_pos difference)]
  split
  · rename_i fits
    exact (log_eq_of_between (threshold.mp fits) upper).symm
  · rename_i small
    rw [threshold, not_le] at small
    apply (log_eq_of_between lower _).symm
    rw [sub_add_cancel]
    exact small

/-! ## Rounding -/

theorem roundRatio_mul {numerator denominator factor : Nat} (bottom : 0 < denominator)
    (positive : 0 < factor) :
    roundRatio (numerator * factor) (denominator * factor) = roundRatio numerator denominator := by
  rw [roundRatio, roundRatio]
  by_cases zero : numerator = 0
  · rw [zero, Nat.zero_mul, if_pos rfl, if_pos rfl]
  · have top : 0 < numerator := Nat.pos_of_ne_zero zero
    have ratio : ((numerator * factor : Nat) : ℚ) / (denominator * factor : Nat) =
        numerator / denominator := by
      have nonzero : (factor : ℚ) ≠ 0 := by exact_mod_cast positive.ne'
      push_cast
      exact mul_div_mul_right _ _ nonzero
    have exponent : ratioExponent (numerator * factor) (denominator * factor) =
        ratioExponent numerator denominator := by
      rw [ratioExponent_eq, ratioExponent_eq, ratioLog_eq top bottom,
        ratioLog_eq (Nat.mul_pos top positive) (Nat.mul_pos bottom positive), ratio]
    rw [if_neg zero, if_neg (Nat.mul_ne_zero zero positive.ne'), exponent]
    dsimp only
    rw [scaleRatio_mul, divideEven_mul positive]

/-- Equal ratios are rounded to the same magnitude. -/
theorem roundRatio_congr {numerator denominator otherTop otherBottom : Nat}
    (bottom : 0 < denominator) (positive : 0 < otherBottom)
    (same : (numerator : ℚ) / denominator = otherTop / otherBottom) :
    roundRatio numerator denominator = roundRatio otherTop otherBottom := by
  have cross : numerator * otherBottom = otherTop * denominator := by
    have left : (denominator : ℚ) ≠ 0 := by exact_mod_cast bottom.ne'
    have right : (otherBottom : ℚ) ≠ 0 := by exact_mod_cast positive.ne'
    exact_mod_cast (div_eq_div_iff left right).mp same
  calc roundRatio numerator denominator
      = roundRatio (numerator * otherBottom) (denominator * otherBottom) :=
        (roundRatio_mul bottom positive).symm
    _ = roundRatio (otherTop * denominator) (otherBottom * denominator) := by
        rw [cross, Nat.mul_comm denominator]
    _ = roundRatio otherTop otherBottom := roundRatio_mul positive bottom

def decimalRatio (digits : Nat) (scale : Int) : Nat × Nat :=
  if 0 ≤ scale then (digits * 10 ^ scale.toNat, 1) else (digits, 10 ^ (-scale).toNat)

theorem decimalRatio_pos (digits : Nat) (scale : Int) : 0 < (decimalRatio digits scale).2 := by
  rw [decimalRatio]
  split
  · exact Nat.one_pos
  · exact Nat.pow_pos (by decide)

theorem decimalRatio_eq (digits : Nat) (scale : Int) :
    ((decimalRatio digits scale).1 : ℚ) / (decimalRatio digits scale).2 =
      digits * 10 ^ scale := by
  rw [decimalRatio]
  split
  · rename_i nonneg
    lift scale to ℕ using nonneg
    rw [Int.toNat_natCast, zpow_natCast]
    push_cast
    rw [div_one]
  · rename_i negative
    have power : ((10 : ℚ) ^ (-scale).toNat) = 10 ^ (-scale) := by
      rw [← zpow_natCast, Int.toNat_of_nonneg (by omega)]
    push_cast
    rw [power, zpow_neg, div_inv_eq_mul]

def ofRounded (negative : Bool) (rounded : Nat × Int) : Option PyFloat :=
  if valid : rounded.1 < 2 ^ 53 ∧ -1074 ≤ rounded.2 ∧ rounded.2 ≤ 971 ∧
      (2 ^ 52 ≤ rounded.1 ∨ rounded.2 = -1074) then
    some ⟨negative, rounded.1, rounded.2, valid.1, valid.2.1, valid.2.2.1, valid.2.2.2⟩
  else
    none

theorem ofDecimal_eq (negative : Bool) (digits : Nat) (scale : Int) :
    ofDecimal negative digits scale = ofRounded negative
      (roundRatio (decimalRatio digits scale).1 (decimalRatio digits scale).2) := rfl

theorem ofRounded_self (value : PyFloat) :
    ofRounded value.negative (value.mantissa, value.exponent) = some value :=
  dif_pos ⟨value.mantissa_lt, value.exponent_ge, value.exponent_le, value.normal⟩

/-- What a decimal is rounded to depends on its value alone. -/
theorem ofDecimal_congr {digits otherDigits : Nat} {scale otherScale : Int} (negative : Bool)
    (same : (digits : ℚ) * 10 ^ scale = otherDigits * 10 ^ otherScale) :
    ofDecimal negative digits scale = ofDecimal negative otherDigits otherScale := by
  have ratios : ((decimalRatio digits scale).1 : ℚ) / (decimalRatio digits scale).2 =
      (decimalRatio otherDigits otherScale).1 / (decimalRatio otherDigits otherScale).2 := by
    rw [decimalRatio_eq, decimalRatio_eq, same]
  rw [ofDecimal_eq, ofDecimal_eq,
    roundRatio_congr (decimalRatio_pos _ _) (decimalRatio_pos _ _) ratios]

theorem ofDecimal_shift (negative : Bool) (digits count : Nat) (scale : Int) :
    ofDecimal negative (digits * 10 ^ count) (scale - count) = ofDecimal negative digits scale := by
  apply ofDecimal_congr
  push_cast
  rw [zpow_sub₀ (by norm_num), zpow_natCast, mul_assoc, mul_div_cancel₀]
  positivity

/-! ## Exact decimals -/

theorem magnitude_pos (value : PyFloat) : 0 < value.magnitude.2 := by
  rw [magnitude]
  split
  · exact Nat.one_pos
  · exact Nat.two_pow_pos _

theorem magnitude_eq (value : PyFloat) :
    (value.magnitude.1 : ℚ) / value.magnitude.2 = value.mantissa * 2 ^ value.exponent := by
  rw [magnitude]
  generalize value.exponent = exponent
  split
  · rename_i nonneg
    lift exponent to ℕ using nonneg
    rw [Int.toNat_natCast, zpow_natCast]
    push_cast
    rw [div_one]
  · have power : ((2 : ℚ) ^ (-exponent).toNat) = 2 ^ (-exponent) := by
      rw [← zpow_natCast, Int.toNat_of_nonneg (by omega)]
    push_cast
    rw [power, zpow_neg, div_inv_eq_mul]

theorem ratioExponent_magnitude {value : PyFloat} (nonzero : value.mantissa ≠ 0) :
    ratioExponent value.magnitude.1 value.magnitude.2 = value.exponent := by
  have power : (0 : ℚ) < 2 ^ value.exponent := zpow_pos two_pos _
  have mantissa : (0 : ℚ) < value.mantissa := by exact_mod_cast Nat.pos_of_ne_zero nonzero
  have positive : (0 : ℚ) < value.mantissa * 2 ^ value.exponent := mul_pos mantissa power
  have top : 0 < value.magnitude.1 := by
    have ratio := value.magnitude_eq
    rw [← ratio] at positive
    exact_mod_cast (div_pos_iff_of_pos_right (by exact_mod_cast value.magnitude_pos)).mp positive
  rw [ratioExponent_eq, ratioLog_eq top value.magnitude_pos, value.magnitude_eq]
  have upper : Int.log 2 ((value.mantissa : ℚ) * 2 ^ value.exponent) < 53 + value.exponent := by
    rw [← Int.lt_zpow_iff_log_lt one_lt_two positive, Nat.cast_ofNat, zpow_add₀ two_ne_zero]
    apply mul_lt_mul_of_pos_right _ power
    exact_mod_cast value.mantissa_lt
  have lower : 2 ^ 52 ≤ value.mantissa →
      52 + value.exponent ≤ Int.log 2 ((value.mantissa : ℚ) * 2 ^ value.exponent) := by
    intro normal
    rw [← Int.zpow_le_iff_le_log one_lt_two positive, Nat.cast_ofNat, zpow_add₀ two_ne_zero]
    apply mul_le_mul_of_nonneg_right _ power.le
    exact_mod_cast normal
  have least := value.exponent_ge
  rcases value.normal with normal | subnormal
  · have atLeast := lower normal
    omega
  · omega

theorem roundRatio_magnitude {value : PyFloat} (nonzero : value.mantissa ≠ 0) :
    roundRatio value.magnitude.1 value.magnitude.2 = (value.mantissa, value.exponent) := by
  have scaled := scaleRatio_eq value.magnitude.1 value.magnitude.2 value.exponent
  have positive := scaleRatio_pos value.magnitude_pos value.magnitude.1 value.exponent
  have bottom : ((scaleRatio value.magnitude.1 value.magnitude.2 value.exponent).2 : ℚ) ≠ 0 := by
    exact_mod_cast positive.ne'
  rw [value.magnitude_eq, mul_assoc, ← zpow_add₀ two_ne_zero, add_neg_cancel, zpow_zero, mul_one,
    div_eq_iff bottom] at scaled
  have whole : (scaleRatio value.magnitude.1 value.magnitude.2 value.exponent).1 =
      value.mantissa * (scaleRatio value.magnitude.1 value.magnitude.2 value.exponent).2 := by
    exact_mod_cast scaled
  have top : value.magnitude.1 ≠ 0 := by
    intro zero
    have ratio := value.magnitude_eq
    rw [zero, Nat.cast_zero, zero_div] at ratio
    rcases mul_eq_zero.mp ratio.symm with none | none
    · exact nonzero (by exact_mod_cast none)
    · exact (zpow_pos two_pos value.exponent).ne' none
  rw [roundRatio, if_neg top, ratioExponent_magnitude nonzero]
  dsimp only
  rw [whole, divideEven_exact positive, if_neg value.mantissa_lt.ne]

/-- The exact decimal is rounded to the value. -/
theorem ofDecimal_exact {value : PyFloat} (nonzero : value.mantissa ≠ 0) :
    ofDecimal value.negative value.exactDecimal.1 value.exactDecimal.2 = some value := by
  have ratios : ((decimalRatio value.exactDecimal.1 value.exactDecimal.2).1 : ℚ) /
      (decimalRatio value.exactDecimal.1 value.exactDecimal.2).2 =
        value.magnitude.1 / value.magnitude.2 := by
    rw [decimalRatio_eq, value.magnitude_eq, exactDecimal]
    generalize value.exponent = exponent
    split
    · rename_i nonneg
      lift exponent to ℕ using nonneg
      rw [Int.toNat_natCast, zpow_natCast, zpow_zero, mul_one]
      push_cast
      rfl
    · have power : ((5 : ℚ) ^ (-exponent).toNat) = 5 ^ (-exponent) := by
        rw [← zpow_natCast, Int.toNat_of_nonneg (by omega)]
      have ten : (10 : ℚ) ^ exponent = 2 ^ exponent * 5 ^ exponent := by
        rw [← mul_zpow]
        norm_num
      push_cast
      rw [power, ten, zpow_neg]
      have five : (5 : ℚ) ^ exponent ≠ 0 := (zpow_pos (by norm_num) exponent).ne'
      field_simp
  rw [ofDecimal_eq, roundRatio_congr (decimalRatio_pos _ _) value.magnitude_pos ratios,
    roundRatio_magnitude nonzero, ofRounded_self]

/-- Zero, at any scale. -/
theorem ofDecimal_zero {value : PyFloat} (zero : value.mantissa = 0) (scale : Int) :
    ofDecimal value.negative 0 scale = some value := by
  have top : (decimalRatio 0 scale).1 = 0 := by
    rw [decimalRatio]
    split
    · exact Nat.zero_mul _
    · rfl
  have least : value.exponent = -1074 := by
    rcases value.normal with normal | subnormal
    · rw [zero] at normal
      exact absurd normal (by decide)
    · exact subnormal
  have whole := ofRounded_self value
  rw [zero, least] at whole
  rw [ofDecimal_eq, top, roundRatio, if_pos rfl, whole]

/-! ## The shortest decimal -/

theorem shortestWith_eq_some {value : PyFloat} {count : Nat} {decimal : Nat × Int}
    (found : value.shortestWith count = some decimal) :
    ofDecimal value.negative decimal.1 decimal.2 = some value := by
  rw [shortestWith] at found
  dsimp only at found
  split at found
  · rename_i left right
    cases found
    split
    · exact of_decide_eq_true left
    · exact of_decide_eq_true right
  · rename_i left _
    cases found
    exact of_decide_eq_true left
  · rename_i _ right
    cases found
    exact of_decide_eq_true right
  · cases found

theorem ofDecimal_shortest {value : PyFloat} (nonzero : value.mantissa ≠ 0) :
    ofDecimal value.negative value.shortest.1 value.shortest.2 = some value := by
  rw [shortest, if_neg nonzero]
  generalize (List.range 17).map (· + 1) = counts
  induction counts with
  | nil => exact ofDecimal_exact nonzero
  | cons count counts induction =>
      rw [shortestFrom]
      cases found : value.shortestWith count with
      | none => exact induction
      | some decimal => exact shortestWith_eq_some found

/-- The shortest decimal of a value that is not zero is not zero. -/
theorem shortest_ne_zero {value : PyFloat} (nonzero : value.mantissa ≠ 0) :
    value.shortest.1 ≠ 0 := by
  intro zero
  have read := ofDecimal_shortest nonzero
  have other := @ofDecimal_zero ⟨value.negative, 0, -1074, by decide, by decide, by decide,
    .inr rfl⟩ rfl value.shortest.2
  rw [zero] at read
  have same := congrArg PyFloat.mantissa (Option.some.inj (read.symm.trans other))
  exact nonzero same

end ExQServe.PyFloat
