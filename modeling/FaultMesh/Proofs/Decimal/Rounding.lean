import Mathlib.Algebra.Order.Field.Power
import Mathlib.Algebra.Order.Round
import Mathlib.Data.Nat.Log
import Mathlib.Tactic.FieldSimp
import Mathlib.Tactic.Linarith
import Mathlib.Tactic.NormNum
import Mathlib.Tactic.Positivity
import Mathlib.Tactic.Ring
import FaultMesh.Decimal.Scaled

/-!
# Rounding to doubles

How far the double nearest to a quotient is from it.  Values are rational numbers without
their sign.  A quotient below the ceiling has a double, that double is off by half a unit
at most, and from one on this is one part in two to the 53rd power.
-/

set_option autoImplicit false

namespace FaultMesh.Binary64

/-- The value of a double without its sign. -/
def value (x : Binary64) : ℚ := x.significand * (2 : ℚ) ^ x.exponent

/-- From here on a quotient is too large for a double. -/
def ceiling : ℚ := 2 ^ 1024 - 2 ^ 970

/-- Power of two that one step of the significand is worth near a quotient. -/
def unitPower (numerator denominator : Nat) : Int :=
  max (binaryOrder numerator denominator - 52) (-1074)

def packed? (rounded : Nat) (scale : Int) : Option Nat :=
  let (significand, scale) :=
    if rounded = 2 * fractionSpan then (fractionSpan, scale + 1) else (rounded, scale)
  if significand < fractionSpan then some significand
  else if 971 < scale then none
  else some ((scale + 1075).toNat * fractionSpan + (significand - fractionSpan))

/-- A quotient rounded to a multiple of its unit. -/
def roundedUnits (numerator denominator : Nat) : Nat :=
  let scale := unitPower numerator denominator
  if 0 ≤ scale then roundQuotient numerator (denominator * Nat.pow 2 scale.toNat)
  else roundQuotient (numerator * Nat.pow 2 (-scale).toNat) denominator

theorem magnitudeBits?_eq (numerator denominator : Nat) :
    magnitudeBits? numerator denominator =
      packed? (roundedUnits numerator denominator) (unitPower numerator denominator) := rfl

/-! ## Rounding a quotient -/

theorem roundQuotient_near (numerator : Nat) {denominator : Nat} (positive : 0 < denominator) :
    |(roundQuotient numerator denominator : ℚ) - numerator / denominator| ≤ 1 / 2 := by
  have parts := Nat.div_add_mod numerator denominator
  have below := Nat.mod_lt numerator positive
  have up : 2 * (roundQuotient numerator denominator * denominator) ≤
        2 * numerator + denominator ∧
      2 * numerator ≤ 2 * (roundQuotient numerator denominator * denominator) + denominator := by
    unfold roundQuotient
    simp only
    rw [Nat.mul_comm] at parts
    split
    · omega
    split
    · rw [Nat.add_mul]
      omega
    split
    · omega
    · rw [Nat.add_mul]
      omega
  have some : (0 : ℚ) < denominator := by exact_mod_cast positive
  have upper : 2 * ((roundQuotient numerator denominator : ℚ) * denominator) ≤
      2 * numerator + denominator := by exact_mod_cast up.1
  have lower : 2 * (numerator : ℚ) ≤
      2 * (roundQuotient numerator denominator * denominator) + denominator := by
    exact_mod_cast up.2
  have whole : (numerator : ℚ) / denominator * denominator = numerator := by field_simp
  rw [abs_le]
  constructor
  · refine le_of_mul_le_mul_right ?_ some
    linarith
  · refine le_of_mul_le_mul_right ?_ some
    linarith

theorem two_zpow_toNat {power : Int} (nonnegative : 0 ≤ power) :
    ((Nat.pow 2 power.toNat : Nat) : ℚ) = (2 : ℚ) ^ power := by
  obtain ⟨n, rfl⟩ := Int.eq_ofNat_of_zero_le nonnegative
  simp

section Order
variable {numerator denominator : Nat}

/-- The orders of its parts tell the order of a quotient up to one. -/
theorem log2_bounds (some : 0 < numerator) (positive : 0 < denominator) :
    (2 : ℚ) ^ ((numerator.log2 : Int) - denominator.log2 - 1) ≤ numerator / denominator ∧
      (numerator / denominator : ℚ) < 2 ^ ((numerator.log2 : Int) - denominator.log2 + 1) := by
  have two : (2 : ℚ) ≠ 0 := by norm_num
  have bottom : (0 : ℚ) < denominator := by exact_mod_cast positive
  have numeratorLow : (2 : ℚ) ^ (numerator.log2 : Int) ≤ numerator := by
    rw [zpow_natCast]
    exact_mod_cast Nat.log2_self_le some.ne'
  have numeratorHigh : (numerator : ℚ) < 2 ^ ((numerator.log2 : Int) + 1) := by
    exact_mod_cast Nat.lt_log2_self
  have denominatorLow : (2 : ℚ) ^ (denominator.log2 : Int) ≤ denominator := by
    rw [zpow_natCast]
    exact_mod_cast Nat.log2_self_le positive.ne'
  have denominatorHigh : (denominator : ℚ) < 2 ^ ((denominator.log2 : Int) + 1) := by
    exact_mod_cast Nat.lt_log2_self
  generalize (numerator.log2 : Int) = n at *
  generalize (denominator.log2 : Int) = d at *
  constructor
  · rw [le_div_iff₀ bottom]
    calc (2 : ℚ) ^ (n - d - 1) * denominator
        ≤ 2 ^ (n - d - 1) * 2 ^ (d + 1) := by gcongr
      _ = 2 ^ n := by
        rw [← zpow_add₀ two]
        congr 1
        omega
      _ ≤ numerator := numeratorLow
  · rw [div_lt_iff₀ bottom]
    calc (numerator : ℚ) < 2 ^ (n + 1) := numeratorHigh
      _ = 2 ^ (n - d + 1) * 2 ^ d := by
        rw [← zpow_add₀ two]
        congr 1
        omega
      _ ≤ 2 ^ (n - d + 1) * denominator := by gcongr

theorem reaches_iff (positive : 0 < denominator) (power : Int) :
    (if 0 ≤ power then decide (denominator * Nat.pow 2 power.toNat ≤ numerator)
      else decide (denominator ≤ numerator * Nat.pow 2 (-power).toNat)) = true ↔
        (2 : ℚ) ^ power ≤ numerator / denominator := by
  have bottom : (0 : ℚ) < denominator := by exact_mod_cast positive
  rw [le_div_iff₀ bottom]
  split
  next nonnegative =>
    rw [decide_eq_true_iff, ← two_zpow_toNat nonnegative, mul_comm]
    exact_mod_cast Iff.rfl
  next negative =>
    have inverse : (2 : ℚ) ^ power * 2 ^ (-power) = 1 := by
      rw [← zpow_add₀ (by norm_num), add_neg_cancel, zpow_zero]
    have scale : (0 : ℚ) < 2 ^ (-power) := by positivity
    rw [decide_eq_true_iff, ← mul_le_mul_iff_left₀ scale, mul_right_comm, inverse, one_mul,
      ← two_zpow_toNat (by omega)]
    exact_mod_cast Iff.rfl

theorem binaryOrder_bounds (some : 0 < numerator) (positive : 0 < denominator) :
    (2 : ℚ) ^ binaryOrder numerator denominator ≤ numerator / denominator ∧
      (numerator / denominator : ℚ) < 2 ^ (binaryOrder numerator denominator + 1) := by
  obtain ⟨low, high⟩ := log2_bounds some positive
  unfold binaryOrder
  simp only
  generalize (numerator.log2 : Int) - denominator.log2 = guess at low high ⊢
  -- The difference of the orders is the order of the quotient, or one more.
  by_cases within : (2 : ℚ) ^ guess ≤ numerator / denominator
  · rw [if_pos ((reaches_iff positive guess).mpr within)]
    exact ⟨within, high⟩
  · have short := mt (reaches_iff positive guess).mp within
    rw [if_neg short, sub_add_cancel]
    exact ⟨low, lt_of_not_ge within⟩

end Order

/-! ## Units -/

theorem roundedUnits_near (numerator : Nat) {denominator : Nat} (positive : 0 < denominator) :
    |(roundedUnits numerator denominator : ℚ) * 2 ^ unitPower numerator denominator -
        numerator / denominator| ≤ 2 ^ (unitPower numerator denominator - 1) := by
  have two : (2 : ℚ) ≠ 0 := by norm_num
  set scale := unitPower numerator denominator with scaled
  have unit : (0 : ℚ) < 2 ^ scale := by positivity
  have near : |(roundedUnits numerator denominator : ℚ) -
      numerator / denominator * 2 ^ (-scale)| ≤ 1 / 2 := by
    unfold roundedUnits
    simp only [← scaled]
    split
    next nonnegative =>
      have power : 0 < Nat.pow 2 scale.toNat := Nat.pow_pos two_pos
      have rounded := roundQuotient_near numerator (Nat.mul_pos positive power)
      rwa [Nat.cast_mul, two_zpow_toNat nonnegative, ← div_div, div_eq_mul_inv _ ((2 : ℚ) ^ scale),
        ← zpow_neg] at rounded
    next negative =>
      have rounded := roundQuotient_near (numerator * Nat.pow 2 (-scale).toNat) positive
      rwa [Nat.cast_mul, two_zpow_toNat (by omega), mul_div_right_comm] at rounded
  have inverse : (2 : ℚ) ^ (-scale) * 2 ^ scale = 1 := by
    rw [← zpow_add₀ two, neg_add_cancel, zpow_zero]
  calc |(roundedUnits numerator denominator : ℚ) * 2 ^ scale - numerator / denominator|
      = |((roundedUnits numerator denominator : ℚ) - numerator / denominator * 2 ^ (-scale)) *
          2 ^ scale| := by rw [sub_mul, mul_assoc, inverse, mul_one]
    _ = |(roundedUnits numerator denominator : ℚ) - numerator / denominator * 2 ^ (-scale)| *
          2 ^ scale := by rw [abs_mul, abs_of_pos unit]
    _ ≤ 1 / 2 * 2 ^ scale := by gcongr
    _ = 2 ^ (scale - 1) := by
      rw [zpow_sub₀ two, zpow_one]
      ring

theorem roundedUnits_zero (denominator : Nat) : roundedUnits 0 denominator = 0 := by
  have zero (denominator : Nat) : roundQuotient 0 denominator = 0 := by
    simp [roundQuotient]
  unfold roundedUnits
  simp only [Nat.zero_mul, zero, ite_self]

/-- A rounded significand has 53 bits, or is the power of two behind them. -/
theorem roundedUnits_le (numerator : Nat) {denominator : Nat} (positive : 0 < denominator) :
    roundedUnits numerator denominator ≤ 2 * fractionSpan := by
  rcases Nat.eq_zero_or_pos numerator with rfl | some
  · rw [roundedUnits_zero]
    exact Nat.zero_le _
  · have high := (binaryOrder_bounds some positive).2
    have near := (abs_le.mp (roundedUnits_near numerator positive)).2
    set scale := unitPower numerator denominator with scaled
    have unit : (0 : ℚ) < 2 ^ scale := by positivity
    have two : (2 : ℚ) ≠ 0 := by norm_num
    have within : (2 : ℚ) ^ (binaryOrder numerator denominator + 1) ≤ 2 ^ 53 * 2 ^ scale := by
      rw [← zpow_natCast, ← zpow_add₀ two]
      refine zpow_le_zpow_right₀ (by norm_num) ?_
      rw [scaled, unitPower]
      omega
    have half : (2 : ℚ) ^ (scale - 1) = 2 ^ scale / 2 := by rw [zpow_sub₀ two, zpow_one]
    have less : (roundedUnits numerator denominator : ℚ) < 2 ^ 53 + 1 := by
      refine lt_of_mul_lt_mul_right ?_ unit.le
      linarith
    have whole : roundedUnits numerator denominator < 2 ^ 53 + 1 := by exact_mod_cast less
    exact Nat.lt_succ_iff.mp whole

theorem le_roundedUnits {numerator denominator : Nat} (some : 0 < numerator)
    (positive : 0 < denominator) (above : unitPower numerator denominator ≠ -1074) :
    fractionSpan ≤ roundedUnits numerator denominator := by
  have low := (binaryOrder_bounds some positive).1
  have near := (abs_le.mp (roundedUnits_near numerator positive)).1
  set scale := unitPower numerator denominator with scaled
  have unit : (0 : ℚ) < 2 ^ scale := by positivity
  have two : (2 : ℚ) ≠ 0 := by norm_num
  have order : binaryOrder numerator denominator = scale + 52 := by
    rw [unitPower] at scaled
    omega
  have half : (2 : ℚ) ^ (scale - 1) = 2 ^ scale / 2 := by rw [zpow_sub₀ two, zpow_one]
  rw [order, zpow_add₀ two] at low
  have more : (2 : ℚ) ^ 52 - 1 < roundedUnits numerator denominator := by
    refine lt_of_mul_lt_mul_right ?_ unit.le
    have span : (2 : ℚ) ^ (52 : Int) = 2 ^ 52 := by norm_num
    rw [span] at low
    linarith
  have whole : 2 ^ 52 < roundedUnits numerator denominator + 1 := by
    have : (2 : ℚ) ^ 52 < roundedUnits numerator denominator + 1 := by linarith
    exact_mod_cast this
  exact Nat.lt_succ_iff.mp whole

/-! ## Fields -/

theorem exponentField_eq (x : Binary64) :
    x.exponentField = x.bits.toNat / fractionSpan % 2048 := by
  rw [exponentField, UInt64.toNat_and, UInt64.toNat_shiftRight]
  exact (Nat.and_two_pow_sub_one_eq_mod _ 11).trans
    (congrArg (· % 2048) (Nat.shiftRight_eq_div_pow _ 52))

theorem fractionField_eq (x : Binary64) :
    x.fractionField = x.bits.toNat % fractionSpan := by
  rw [fractionField, UInt64.toNat_and]
  exact Nat.and_two_pow_sub_one_eq_mod _ 52

theorem isNegative_eq (x : Binary64) :
    x.isNegative = decide (2048 * fractionSpan ≤ x.bits.toNat) := by
  have size := x.bits.toNat_lt
  have shifted : (x.bits >>> 63).toNat = x.bits.toNat / 2 ^ 63 := by
    rw [UInt64.toNat_shiftRight]
    exact Nat.shiftRight_eq_div_pow _ 63
  rw [isNegative, Bool.eq_iff_iff, beq_iff_eq, decide_eq_true_iff, ← UInt64.toNat_inj, shifted]
  simp only [fractionSpan, UInt64.toNat_one]
  omega

theorem exponentField_lt (x : Binary64) : x.exponentField < 2047 := by
  have other : x.exponentField ≠ 2047 := by
    intro full
    refine x.finite (UInt64.toNat_inj.mp ?_)
    exact full
  rw [exponentField_eq] at other ⊢
  omega

theorem ofMagnitude?_fields (negative : Bool) (magnitude : Nat)
    (small : magnitude < 2047 * fractionSpan) :
    ∃ x, ofMagnitude? negative magnitude = some x ∧ x.isNegative = negative ∧
      x.exponentField = magnitude / fractionSpan ∧
      x.fractionField = magnitude % fractionSpan := by
  have size : (if negative then magnitude + 0x8000000000000000 else magnitude) < 2 ^ 64 := by
    simp only [fractionSpan] at small
    split <;> omega
  have bits : (UInt64.ofNat (if negative then magnitude + 0x8000000000000000
      else magnitude)).toNat = if negative then magnitude + 0x8000000000000000 else magnitude := by
    rw [UInt64.toNat_ofNat', Nat.mod_eq_of_lt size]
  have finite : (UInt64.ofNat (if negative then magnitude + 0x8000000000000000
      else magnitude) >>> 52) &&& 0x7FF ≠ 0x7FF := by
    intro full
    have field := congrArg UInt64.toNat full
    rw [UInt64.toNat_and, UInt64.toNat_shiftRight, bits] at field
    have field := ((Nat.and_two_pow_sub_one_eq_mod _ 11).trans
      (congrArg (· % 2048) (Nat.shiftRight_eq_div_pow _ 52))).symm.trans field
    simp only [fractionSpan] at small
    have : (0x7FF : UInt64).toNat = 2047 := rfl
    split at field <;> omega
  refine ⟨⟨_, finite⟩, ?_, ?_, ?_, ?_⟩
  · rw [ofMagnitude?, ofBits?, dif_pos finite]
  · rw [isNegative_eq, bits]
    simp only [fractionSpan] at small ⊢
    cases negative with
    | true => simp
    | false =>
      simp
      omega
  · rw [exponentField_eq, bits]
    simp only [fractionSpan] at small ⊢
    split <;> omega
  · rw [fractionField_eq, bits]
    simp only [fractionSpan] at small ⊢
    split <;> omega

theorem value_eq (x : Binary64) :
    x.value = if x.exponentField = 0 then x.fractionField * (2 : ℚ) ^ (-1074 : Int)
      else (x.fractionField + fractionSpan) * (2 : ℚ) ^ ((x.exponentField : Int) - 1075) := by
  unfold value significand exponent
  split
  · rfl
  · push_cast
    rfl

theorem packed?_fits (negative : Bool) {rounded : Nat} {scale : Int}
    (size : rounded ≤ 2 * fractionSpan) (least : -1074 ≤ scale)
    (normal : scale = -1074 ∨ fractionSpan ≤ rounded)
    (fits : scale < 971 ∨ scale = 971 ∧ rounded < 2 * fractionSpan) :
    ∃ x, (packed? rounded scale).bind (ofMagnitude? negative) = some x ∧
      x.isNegative = negative ∧ x.value = rounded * (2 : ℚ) ^ scale := by
  have packs (significand : Nat) (scale : Int) (normal : fractionSpan ≤ significand)
      (size : significand < 2 * fractionSpan) (least : -1074 ≤ scale) (most : scale ≤ 971) :
      ∃ x, ofMagnitude? negative
          ((scale + 1075).toNat * fractionSpan + (significand - fractionSpan)) = some x ∧
        x.isNegative = negative ∧ x.value = significand * (2 : ℚ) ^ scale := by
    obtain ⟨x, made, sign, exponent, fraction⟩ := ofMagnitude?_fields negative
      ((scale + 1075).toNat * fractionSpan + (significand - fractionSpan))
      (by simp only [fractionSpan] at *; omega)
    refine ⟨x, made, sign, ?_⟩
    have field : x.exponentField = (scale + 1075).toNat := by
      rw [exponent]
      simp only [fractionSpan] at *
      omega
    have rest : x.fractionField + fractionSpan = significand := by
      rw [fraction]
      simp only [fractionSpan] at *
      omega
    rw [value_eq, if_neg (by omega), ← Nat.cast_add, rest, field]
    congr 2
    omega
  unfold packed?
  by_cases carry : rounded = 2 * fractionSpan
  · rw [if_pos carry]
    obtain ⟨x, made, sign, same⟩ := packs fractionSpan (scale + 1)
      le_rfl (by decide) (by omega) (by omega)
    refine ⟨x, ?_, sign, ?_⟩
    · simpa [show ¬ 971 < scale + 1 by omega] using made
    · rw [same, carry, zpow_add₀ (by norm_num)]
      push_cast
      ring
  · rw [if_neg carry]
    by_cases below : rounded < fractionSpan
    · obtain rfl : scale = -1074 := by omega
      obtain ⟨x, made, sign, exponent, fraction⟩ := ofMagnitude?_fields negative
        rounded (by simp only [fractionSpan] at *; omega)
      refine ⟨x, by simpa [below] using made, sign, ?_⟩
      rw [value_eq, if_pos (by rw [exponent]; exact Nat.div_eq_of_lt below), fraction,
        Nat.mod_eq_of_lt below]
    · obtain ⟨x, made, sign, same⟩ := packs rounded scale
        (by omega) (by omega) (by omega) (by omega)
      exact ⟨x, by simpa [below, show ¬ 971 < scale by omega] using made, sign, same⟩

theorem packed?_overflows {rounded : Nat} {scale : Int}
    (normal : fractionSpan ≤ rounded)
    (large : 971 < scale ∨ scale = 971 ∧ rounded = 2 * fractionSpan) :
    packed? rounded scale = none := by
  unfold packed?
  by_cases carry : rounded = 2 * fractionSpan
  · simp [carry, show 971 < scale + 1 by omega]
  · simp [carry, normal, show 971 < scale by omega]

/-! ## The nearest double -/

section Nearest
variable (negative : Bool) (numerator : Nat) {denominator : Nat}

theorem ofQuotient?_zero (denominator : Nat) :
    ∃ x, ofQuotient? negative 0 denominator = some x ∧ x.isNegative = negative ∧
      x.value = 0 := by
  rw [ofQuotient?, magnitudeBits?_eq, roundedUnits_zero]
  obtain ⟨x, made, sign, exponent, fraction⟩ := ofMagnitude?_fields negative 0
    (by decide)
  refine ⟨x, made, sign, ?_⟩
  rw [value_eq, if_pos (by rw [exponent]; rfl), fraction]
  simp

/-- The ceiling is half a unit above the greatest double. -/
theorem ceiling_eq : ceiling = (2 ^ 54 - 1) * (2 : ℚ) ^ (970 : Int) := by
  rw [ceiling, sub_mul, one_mul, zpow_ofNat, ← pow_add]

/-- Below the ceiling there is a nearest double, and it is off by half a unit at most. -/
theorem ofQuotient?_of_lt (positive : 0 < denominator)
    (below : (numerator / denominator : ℚ) < ceiling) :
    ∃ x, ofQuotient? negative numerator denominator = some x ∧ x.isNegative = negative ∧
      |x.value - numerator / denominator| ≤ 2 ^ (unitPower numerator denominator - 1) := by
  rcases Nat.eq_zero_or_pos numerator with rfl | nonzero
  · obtain ⟨x, made, sign, zero⟩ := ofQuotient?_zero negative denominator
    refine ⟨x, made, sign, ?_⟩
    rw [zero, Nat.cast_zero, zero_div, sub_zero, abs_zero]
    positivity
  have two : (2 : ℚ) ≠ 0 := by norm_num
  have order : unitPower numerator denominator ≤ 971 := by
    by_contra above
    have low := (binaryOrder_bounds nonzero positive).1
    have large : (2 : ℚ) ^ (1024 : Int) ≤ 2 ^ binaryOrder numerator denominator := by
      refine zpow_le_zpow_right₀ (by norm_num) ?_
      rw [unitPower] at above
      omega
    have most : ceiling < (2 : ℚ) ^ (1024 : Int) := by
      rw [ceiling, zpow_ofNat]
      exact sub_lt_self _ (by positivity)
    linarith
  have fits : unitPower numerator denominator < 971 ∨ unitPower numerator denominator = 971 ∧
      roundedUnits numerator denominator < 2 * fractionSpan := by
    rcases lt_or_eq_of_le order with less | same
    · exact .inl less
    · refine .inr ⟨same, lt_of_le_of_ne (roundedUnits_le numerator positive) fun carry => ?_⟩
      have near := (abs_le.mp (roundedUnits_near numerator positive)).2
      have double : (2 : ℚ) ^ (971 : Int) = 2 * 2 ^ (970 : Int) := by
        rw [← zpow_one_add₀ two]
        rfl
      have whole : ((2 * fractionSpan : Nat) : ℚ) = 2 ^ 53 := by norm_num [fractionSpan]
      rw [same, carry, whole, double, show (971 : Int) - 1 = 970 by decide] at near
      rw [ceiling_eq] at below
      linarith
  obtain ⟨x, made, sign, same⟩ := packed?_fits negative (roundedUnits_le numerator positive)
    (le_max_right _ _) (Classical.or_iff_not_imp_left.mpr (le_roundedUnits nonzero positive)) fits
  refine ⟨x, made, sign, ?_⟩
  rw [same]
  exact roundedUnits_near numerator positive

theorem ofQuotient?_near {x : Binary64} (positive : 0 < denominator) (nonzero : 0 < numerator)
    (made : ofQuotient? negative numerator denominator = some x) :
    unitPower numerator denominator ≤ 971 ∧
      |x.value - numerator / denominator| ≤ 2 ^ (unitPower numerator denominator - 1) := by
  have normal := Classical.or_iff_not_imp_left.mpr (le_roundedUnits nonzero positive)
  have size := roundedUnits_le numerator positive
  have fits : unitPower numerator denominator < 971 ∨ unitPower numerator denominator = 971 ∧
      roundedUnits numerator denominator < 2 * fractionSpan := by
    by_contra large
    have none : packed? (roundedUnits numerator denominator)
        (unitPower numerator denominator) = none :=
      packed?_overflows (by omega) (by omega)
    rw [ofQuotient?, magnitudeBits?_eq, none] at made
    cases made
  obtain ⟨y, same, -, value⟩ := packed?_fits negative size (le_max_right _ _) normal fits
  obtain rfl : y = x := Option.some.inj (same.symm.trans made)
  refine ⟨by omega, ?_⟩
  rw [value]
  exact roundedUnits_near numerator positive

end Nearest

/-- A nearest double is at most one more than twice the quotient, however small this is. -/
theorem ofQuotient?_le (negative : Bool) (numerator : Nat) {denominator : Nat}
    (positive : 0 < denominator) (below : (numerator / denominator : ℚ) < ceiling) :
    ∃ x, ofQuotient? negative numerator denominator = some x ∧
      x.value ≤ 2 * (numerator / denominator) + 1 := by
  rcases Nat.eq_zero_or_pos numerator with rfl | nonzero
  · obtain ⟨x, made, -, zero⟩ := ofQuotient?_zero negative denominator
    exact ⟨x, made, by rw [zero]; positivity⟩
  obtain ⟨x, made, -, near⟩ := ofQuotient?_of_lt negative numerator positive below
  refine ⟨x, made, ?_⟩
  have low := (binaryOrder_bounds nonzero positive).1
  have half : (2 : ℚ) ^ (unitPower numerator denominator - 1) ≤
      numerator / denominator + 1 := by
    rcases max_choice (binaryOrder numerator denominator - 52) (-1074) with large | small
    · rw [unitPower, large]
      have less : (2 : ℚ) ^ (binaryOrder numerator denominator - 52 - 1) ≤
          2 ^ binaryOrder numerator denominator :=
        zpow_le_zpow_right₀ (by norm_num) (by omega)
      linarith
    · rw [unitPower, small]
      have less : (2 : ℚ) ^ ((-1074 : Int) - 1) ≤ 2 ^ (0 : Int) :=
        zpow_le_zpow_right₀ (by norm_num) (by decide)
      have some : (0 : ℚ) ≤ numerator / denominator := by positivity
      exact less.trans (by rw [zpow_zero]; linarith)
  have upper := (abs_le.mp near).2
  linarith

/-- From one on, rounding changes a quotient by one part in two to the 53rd at most. -/
theorem ofQuotient?_relative {negative : Bool} {numerator denominator : Nat} {x : Binary64}
    (positive : 0 < denominator) (one : 1 ≤ (numerator / denominator : ℚ))
    (made : ofQuotient? negative numerator denominator = some x) :
    |x.value - numerator / denominator| ≤ numerator / denominator / 2 ^ 53 := by
  have nonzero : 0 < numerator := by
    refine Nat.pos_of_ne_zero fun zero => ?_
    rw [zero, Nat.cast_zero, zero_div] at one
    exact absurd one (by norm_num)
  obtain ⟨low, high⟩ := binaryOrder_bounds nonzero positive
  have order : 0 ≤ binaryOrder numerator denominator := by
    by_contra negative
    have least : (2 : ℚ) ^ (binaryOrder numerator denominator + 1) ≤ 2 ^ (0 : Int) :=
      zpow_le_zpow_right₀ (by norm_num) (by omega)
    rw [zpow_zero] at least
    linarith
  refine (ofQuotient?_near negative numerator positive nonzero made).2.trans ?_
  have unit : unitPower numerator denominator - 1 =
      binaryOrder numerator denominator - (53 : Nat) := by
    rw [unitPower, max_eq_left (by omega)]
    omega
  rw [unit, zpow_sub₀ (by norm_num), zpow_natCast]
  gcongr

end FaultMesh.Binary64
