import FaultMesh.Proofs.Decimal.Digits
import FaultMesh.Proofs.Decimal.Rounding

/-!
# Reading scaled decimals

The quick way to read a decimal does not always give the double nearest to it, but it
gives one for every decimal that a double is written as.  The three greatest doubles are
so close to the ceiling that they are looked at one by one.
-/

set_option autoImplicit false

namespace FaultMesh.Binary64

open Decimal (quotient shortest shortestDigits readsBack exact)

theorem quotient_positive (x : Binary64) : 0 < (quotient x).2 := by
  unfold quotient
  split
  · exact Nat.one_pos
  · exact Nat.pow_pos two_pos

theorem quotient_value (x : Binary64) : ((quotient x).1 / (quotient x).2 : ℚ) = x.value := by
  unfold quotient value
  split
  next nonnegative =>
    rw [Nat.cast_mul, two_zpow_toNat nonnegative, Nat.cast_one, div_one]
  next negative =>
    rw [two_zpow_toNat (by omega), div_eq_mul_inv, ← zpow_neg, neg_neg]

theorem value_nonnegative (x : Binary64) : 0 ≤ x.value := by
  unfold value
  positivity

theorem product?_parts (x y : Binary64) :
    (((quotient x).1 * (quotient y).1 : Nat) / ((quotient x).2 * (quotient y).2 : Nat) : ℚ) =
      x.value * y.value := by
  rw [Nat.cast_mul, Nat.cast_mul, mul_div_mul_comm, quotient_value, quotient_value]

theorem ratio?_parts (x y : Binary64) :
    (((quotient x).1 * (quotient y).2 : Nat) / ((quotient x).2 * (quotient y).1 : Nat) : ℚ) =
      x.value / y.value := by
  rw [Nat.cast_mul, Nat.cast_mul, ← quotient_value x, ← quotient_value y, div_div_div_eq]

theorem ten_pow_lt_ceiling (power : Nat) (small : power ≤ greatestPower) :
    (10 : ℚ) ^ power < ceiling := by
  have less : 10 ^ greatestPower + 2 ^ 970 < 2 ^ 1024 := by decide +kernel
  have cast : (10 : ℚ) ^ greatestPower + 2 ^ 970 < 2 ^ 1024 := by exact_mod_cast less
  have order : (10 : ℚ) ^ power ≤ 10 ^ greatestPower := pow_le_pow_right₀ (by norm_num) small
  exact order.trans_lt (lt_sub_iff_add_lt.mpr cast)

theorem powerOfTen?_near (power : Nat) (small : power ≤ greatestPower) :
    ∃ x, powerOfTen? power = some x ∧
      |x.value - (10 : ℚ) ^ power| ≤ (10 : ℚ) ^ power / 2 ^ 53 := by
  have parts : ((Nat.pow 10 power : Nat) / (1 : Nat) : ℚ) = 10 ^ power := by simp
  obtain ⟨x, made, -, -⟩ := ofQuotient?_of_lt false (Nat.pow 10 power) Nat.one_pos
    (by rw [parts]; exact ten_pow_lt_ceiling power small)
  refine ⟨x, made, ?_⟩
  have near := ofQuotient?_relative Nat.one_pos
    (by rw [parts]; exact one_le_pow₀ (by norm_num)) made
  rwa [parts] at near

theorem powerOfTen?_large {power : Nat} (positive : 0 < power) (small : power ≤ greatestPower) :
    ∃ x, powerOfTen? power = some x ∧ 8 ≤ x.value := by
  obtain ⟨x, made, near⟩ := powerOfTen?_near power small
  refine ⟨x, made, ?_⟩
  have ten : (10 : ℚ) ^ 1 ≤ 10 ^ power := pow_le_pow_right₀ (by norm_num) positive
  have lower := (abs_le.mp near).1
  linarith

/-! ## Dividing -/

section Dividing
variable {x power : Binary64}

theorem ratio?_le (negative : Bool) (small : x.value ≤ 2 ^ 65) (large : 8 ≤ power.value) :
    ∃ y, ratio? negative x power = some y ∧ y.value ≤ 2 ^ 65 := by
  have positive : 0 < (quotient x).2 * (quotient power).1 := by
    refine Nat.mul_pos (quotient_positive x) (Nat.pos_of_ne_zero fun zero => ?_)
    have value := quotient_value power
    rw [zero, Nat.cast_zero, zero_div] at value
    linarith
  have eighth : x.value / power.value ≤ 2 ^ 62 := by
    rw [div_le_iff₀ (by linarith)]
    nlinarith [value_nonnegative x]
  have below : x.value / power.value < ceiling := by
    have least := ten_pow_lt_ceiling 20 (by decide)
    linarith
  obtain ⟨y, made, upper⟩ := ofQuotient?_le negative ((quotient x).1 * (quotient power).2)
    positive (by rw [ratio?_parts]; exact below)
  rw [ratio?_parts] at upper
  exact ⟨y, made, by linarith⟩

theorem shrink?_le (times : Nat) (small : x.value ≤ 2 ^ 65) :
    ∃ y, shrink? times x = some y ∧ y.value ≤ 2 ^ 65 := by
  induction times generalizing x with
  | zero => exact ⟨x, rfl, small⟩
  | succ times ih =>
    rw [shrink?]
    split
    · exact ⟨x, rfl, small⟩
    · obtain ⟨power, read, large⟩ := powerOfTen?_large (by decide) (le_refl greatestPower)
      obtain ⟨next, divided, less⟩ := ratio?_le (x := x) false small large
      obtain ⟨y, shrunk, bound⟩ := ih less
      exact ⟨y, by simp [read, divided, shrunk], bound⟩

end Dividing

theorem significand_le {significand : Nat} (size : significand < 2 ^ 64) :
    ∃ x, ofQuotient? false significand 1 = some x ∧ x.value ≤ 2 ^ 65 := by
  have cast : (significand : ℚ) ≤ 2 ^ 64 - 1 := by
    have : (significand : ℚ) + 1 ≤ 2 ^ 64 := by exact_mod_cast size
    linarith
  have parts : (significand / (1 : Nat) : ℚ) = significand := by simp
  have least := ten_pow_lt_ceiling 20 (by decide)
  obtain ⟨x, made, upper⟩ := ofQuotient?_le false significand Nat.one_pos
    (by rw [parts]; linarith)
  rw [parts] at upper
  exact ⟨x, made, by linarith⟩

theorem scaled?_of_negative (negative : Bool) {significand : Nat} {power : Int}
    (size : significand < 2 ^ 64) (below : power < 0) :
    ∃ x, scaled? negative significand power = some x := by
  obtain ⟨x, made, small⟩ := significand_le size
  have rest : 0 < (-power).toNat - ((-power).toNat - 1) / greatestPower * greatestPower ∧
      (-power).toNat - ((-power).toNat - 1) / greatestPower * greatestPower ≤
        greatestPower := by
    have parts := Nat.div_add_mod ((-power).toNat - 1) greatestPower
    have less := Nat.mod_lt ((-power).toNat - 1) (by decide : 0 < greatestPower)
    rw [Nat.mul_comm] at parts
    omega
  obtain ⟨y, shrunk, bound⟩ := shrink?_le (x := x) (((-power).toNat - 1) / greatestPower) small
  obtain ⟨ten, read, large⟩ := powerOfTen?_large rest.1 rest.2
  obtain ⟨z, divided, -⟩ := ratio?_le (x := y) negative bound large
  refine ⟨z, ?_⟩
  rw [scaled?, made]
  simp [show ¬ 0 ≤ power by omega, shrunk, read, divided]

/-- Two roundings lift a product by less than six half units of the greatest doubles. -/
theorem product_lt {first second x y unit : ℚ} (some : 0 ≤ first) (nonnegative : 0 ≤ y)
    (positive : 0 < unit) (near : |x - first| ≤ first / 2 ^ 53)
    (also : |y - second| ≤ second / 2 ^ 53)
    (bound : first * second ≤ 18014398509481977 * unit) : x * y < (2 ^ 54 - 1) * unit := by
  have upper : x ≤ first * (1 + 1 / 2 ^ 53) := by linarith [(abs_le.mp near).2]
  have upperOther : y ≤ second * (1 + 1 / 2 ^ 53) := by linarith [(abs_le.mp also).2]
  calc x * y
      ≤ first * (1 + 1 / 2 ^ 53) * (second * (1 + 1 / 2 ^ 53)) :=
        mul_le_mul upper upperOther nonnegative (by positivity)
    _ = first * second * ((1 + 1 / 2 ^ 53) * (1 + 1 / 2 ^ 53)) := by ring
    _ ≤ 18014398509481977 * unit * ((1 + 1 / 2 ^ 53) * (1 + 1 / 2 ^ 53)) :=
      mul_le_mul_of_nonneg_right bound (by positivity)
    _ = 18014398509481977 * ((1 + 1 / 2 ^ 53) * (1 + 1 / 2 ^ 53)) * unit := by ring
    _ < (2 ^ 54 - 1) * unit := by
      refine mul_lt_mul_of_pos_right ?_ positive
      norm_num

/-- Zero is read whatever its power of ten is. -/
theorem scaled?_zero (negative : Bool) {power : Int} (above : 0 ≤ power) :
    ∃ x, scaled? negative 0 power = some x := by
  obtain ⟨x, made, -⟩ := significand_le (by decide : 0 < 2 ^ 64)
  by_cases small : power ≤ greatestPower
  · obtain ⟨ten, read, -⟩ := powerOfTen?_near power.toNat (by omega)
    obtain ⟨y, zero, -⟩ := ofQuotient?_zero negative ((quotient x).2 * (quotient ten).2)
    have none : (quotient x).1 = 0 := by
      have same : x = Binary64.zero := Option.some.inj (made.symm.trans (by decide))
      rw [same]
      decide
    refine ⟨y, ?_⟩
    rw [scaled?, made]
    simpa [above, small, read, product?, none] using zero
  · obtain ⟨y, zero, -⟩ := ofQuotient?_zero negative 1
    refine ⟨y, ?_⟩
    rw [scaled?, made]
    simpa [above, small] using zero

theorem power_le_of_le {significand : Nat} {power : Int} (nonzero : 0 < significand)
    (bound : significand * 10 ^ power.toNat ≤ 2 ^ 1024 - 7 * 2 ^ 970) :
    power ≤ greatestPower := by
  by_contra large
  have more : 10 ^ (greatestPower + 1) ≤ significand * 10 ^ power.toNat := by
    refine (Nat.pow_le_pow_right (by decide) ?_).trans (Nat.le_mul_of_pos_left _ nonzero)
    omega
  exact absurd (more.trans bound) (by decide +kernel)

/-- Decimals are read as long as two roundings cannot lift them to the ceiling. -/
theorem scaled?_of_le (negative : Bool) {significand : Nat} {power : Int}
    (size : significand < 2 ^ 64) (above : 0 ≤ power)
    (bound : significand * 10 ^ power.toNat ≤ 2 ^ 1024 - 7 * 2 ^ 970) :
    ∃ x, scaled? negative significand power = some x := by
  rcases Nat.eq_zero_or_pos significand with rfl | nonzero
  · exact scaled?_zero negative above
  have small : power ≤ greatestPower := power_le_of_le nonzero bound
  obtain ⟨x, made, -⟩ := significand_le size
  obtain ⟨ten, read, tenNear⟩ := powerOfTen?_near power.toNat (by omega)
  have one : 1 ≤ (significand / (1 : Nat) : ℚ) := by
    rw [Nat.cast_one, div_one]
    exact_mod_cast nonzero
  -- Significand and power of ten are rounded each, and their product stays below the ceiling.
  have near := ofQuotient?_relative Nat.one_pos one made
  rw [Nat.cast_one, div_one] at near
  have product : x.value * ten.value < ceiling := by
    have units : 2 ^ 1024 - 7 * 2 ^ 970 = 18014398509481977 * 2 ^ 970 := by decide +kernel
    rw [ceiling_eq, zpow_ofNat]
    apply product_lt (Nat.cast_nonneg significand) (value_nonnegative ten) (by positivity) near
      tenNear
    rw [units] at bound
    exact_mod_cast bound
  obtain ⟨y, multiplied, -⟩ := ofQuotient?_of_lt negative ((quotient x).1 * (quotient ten).1)
    (Nat.mul_pos (quotient_positive x) (quotient_positive ten))
    (by rw [product?_parts]; exact product)
  refine ⟨y, ?_⟩
  rw [scaled?, made]
  simp [above, small, read, product?, multiplied]

/-! ## The greatest doubles -/

theorem bits_eq_fields (x : Binary64) :
    x.bits.toNat = (if x.isNegative then 2048 * fractionSpan else 0) +
      x.exponentField * fractionSpan + x.fractionField := by
  have size := x.bits.toNat_lt
  have sign := isNegative_eq x
  rw [exponentField_eq, fractionField_eq]
  cases negative : x.isNegative with
  | true =>
    have high := of_decide_eq_true (sign.symm.trans negative)
    simp only [fractionSpan, if_true] at high ⊢
    omega
  | false =>
    have low := of_decide_eq_false (sign.symm.trans negative)
    simp only [fractionSpan, Bool.false_eq_true, if_false] at low ⊢
    omega

theorem fractionField_lt (x : Binary64) : x.fractionField < fractionSpan := by
  rw [fractionField_eq]
  exact Nat.mod_lt _ (by decide)

theorem top_of_lt {x : Binary64} (above : (2 ^ 54 - 8) * (2 : ℚ) ^ (970 : Int) < x.value) :
    ∃ lack < 3, x.bits.toNat =
      (if x.isNegative then 2048 * fractionSpan else 0) + 2047 * fractionSpan - 1 - lack := by
  have fraction := x.fractionField_lt
  have exponent := x.exponentField_lt
  have unit : (0 : ℚ) < 2 ^ (970 : Int) := by positivity
  have significand : (x.fractionField : ℚ) + fractionSpan ≤ 2 ^ 53 := by
    have : x.fractionField + fractionSpan ≤ 2 ^ 53 := by
      simp only [fractionSpan] at *
      omega
    exact_mod_cast this
  have highest : x.exponentField = 2046 := by
    by_contra lower
    have small : x.value ≤ 2 ^ 53 * 2 ^ (970 : Int) := by
      rw [value_eq]
      split
      · refine mul_le_mul ?_ (zpow_le_zpow_right₀ (by norm_num) (by decide))
          (by positivity) (by positivity)
        exact le_trans (by simp) significand
      · refine mul_le_mul significand (zpow_le_zpow_right₀ (by norm_num) (by omega))
          (by positivity) (by positivity)
    have less := lt_of_mul_lt_mul_right (above.trans_le small) unit.le
    norm_num at less
  have size : x.value = (x.fractionField + fractionSpan) * 2 * 2 ^ (970 : Int) := by
    rw [value_eq, highest, if_neg (by decide), mul_assoc, ← zpow_one_add₀ (by norm_num)]
    rfl
  have large : 2 ^ 54 - 8 < (x.fractionField + fractionSpan) * 2 := by
    rw [size] at above
    have less := lt_of_mul_lt_mul_right above unit.le
    have : (2 : ℚ) ^ 54 < (x.fractionField + fractionSpan) * 2 + 8 := by linarith
    have : 2 ^ 54 < (x.fractionField + fractionSpan) * 2 + 8 := by exact_mod_cast this
    omega
  refine ⟨fractionSpan - 1 - x.fractionField, ?_, ?_⟩
  · simp only [fractionSpan] at *
    omega
  · rw [bits_eq_fields, highest]
    simp only [fractionSpan] at *
    split <;> omega

def readsShortest (x : Binary64) : Bool :=
  let decimal := shortestDigits x
  let significand := Text.decimalValue decimal.digits
  decide (significand < Nat.pow 2 64) &&
    (scaled? x.isNegative significand (decimal.point - decimal.digits.length)).isSome

theorem readsShortest_greatest : ∀ lack < 3, ∀ negative : Bool,
    (ofMagnitude? negative (2047 * fractionSpan - 1 - lack)).all readsShortest = true := by
  decide +kernel

theorem readsShortest_top {x : Binary64}
    (above : (2 ^ 54 - 8) * (2 : ℚ) ^ (970 : Int) < x.value) : readsShortest x = true := by
  obtain ⟨lack, few, bits⟩ := top_of_lt above
  have same : ofMagnitude? x.isNegative (2047 * fractionSpan - 1 - lack) = some x := by
    have equal : UInt64.ofNat (if x.isNegative then
        2047 * fractionSpan - 1 - lack + 0x8000000000000000
        else 2047 * fractionSpan - 1 - lack) = x.bits := by
      rw [← UInt64.toNat_inj, bits, UInt64.toNat_ofNat', Nat.mod_eq_of_lt]
      · simp only [fractionSpan]
        split <;> omega
      · simp only [fractionSpan]
        split <;> omega
    rw [ofMagnitude?, ofBits?, equal, dif_pos x.finite]
  have read := readsShortest_greatest lack few x.isNegative
  rwa [same] at read

theorem ten_zpow_toNat {power : Int} (nonnegative : 0 ≤ power) :
    ((Nat.pow 10 power.toNat : Nat) : ℚ) = (10 : ℚ) ^ power := by
  obtain ⟨n, rfl⟩ := Int.eq_ofNat_of_zero_le nonnegative
  simp

theorem exact_value (x : Binary64) : ((exact x).1 : ℚ) * 10 ^ (exact x).2 = x.value := by
  unfold exact value
  split
  next nonnegative =>
    rw [Nat.cast_mul, two_zpow_toNat nonnegative, zpow_zero, mul_one]
  next negative =>
    have five : ((Nat.pow 5 (-x.exponent).toNat : Nat) : ℚ) = 5 ^ (-x.exponent) := by
      obtain ⟨n, power⟩ := Int.eq_ofNat_of_zero_le (show 0 ≤ -x.exponent by omega)
      rw [power]
      simp
    have ten : (10 : ℚ) ^ x.exponent = 5 ^ x.exponent * 2 ^ x.exponent := by
      rw [← mul_zpow]
      norm_num
    rw [Nat.cast_mul, five, ten, mul_assoc, ← mul_assoc (5 ^ _), ← zpow_add₀ (by norm_num),
      neg_add_cancel, zpow_zero, one_mul]

/-- Unless a double is among the greatest, its shortest decimal stays below the ceiling by
more than two roundings can lift it. -/
theorem shortest_le {x : Binary64} (nonzero : x.isZero = false)
    (below : x.value ≤ (2 ^ 54 - 8) * (2 : ℚ) ^ (970 : Int)) :
    ((shortest x).1 : ℚ) * 10 ^ (shortest x).2 ≤ 18014398509481977 * 2 ^ (970 : Int) := by
  have unit : (0 : ℚ) < 2 ^ (970 : Int) := by positivity
  rcases Decimal.shortest_cases x with back | same
  · have near {numerator denominator : Nat} (nonzero : 0 < numerator) (positive : 0 < denominator)
        (made : ofQuotient? x.isNegative numerator denominator = some x) :
        (numerator / denominator : ℚ) ≤ 18014398509481977 * 2 ^ (970 : Int) := by
      obtain ⟨most, half⟩ := ofQuotient?_near _ _ positive nonzero made
      have less : (2 : ℚ) ^ (unitPower numerator denominator - 1) ≤ 2 ^ (970 : Int) :=
        zpow_le_zpow_right₀ (by norm_num) (by omega)
      have lower := (abs_le.mp half).1
      linarith
    have positive := Decimal.shortest_positive nonzero
    generalize shortest x = decimal at back positive
    obtain ⟨digits, scale⟩ := decimal
    simp only [readsBack, beq_iff_eq, ofDecimal?] at back positive ⊢
    rw [if_neg positive.ne'] at back
    split at back
    · cases back
    split at back
    next tiny =>
      rw [← Option.some.inj back] at nonzero
      exact absurd nonzero (by cases x.isNegative <;> decide)
    split at back
    next nonnegative =>
      have power : 0 < Nat.pow 10 scale.toNat := Nat.pow_pos (by decide)
      have read := near (Nat.mul_pos positive power) Nat.one_pos back
      rwa [Nat.cast_mul, ten_zpow_toNat nonnegative, Nat.cast_one, div_one] at read
    next negative =>
      have power : 0 < Nat.pow 10 (-scale).toNat := Nat.pow_pos (by decide)
      have read := near positive power back
      rwa [ten_zpow_toNat (by omega), div_eq_mul_inv, ← zpow_neg, neg_neg] at read
  · rw [same, exact_value]
    exact below.trans (mul_le_mul_of_nonneg_right (by norm_num) unit.le)

end FaultMesh.Binary64
