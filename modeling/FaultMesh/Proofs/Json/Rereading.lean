import FaultMesh.Proofs.Decimal.Scaling
import FaultMesh.Proofs.Json.Numerals

/-!
# Numbers that are written and read again

Every number that is written can be read: a whole number comes back as it is, and a real
comes back as a real.  That real need not be the same one, because decimals are read in the
quick way.
-/

set_option autoImplicit false

namespace FaultMesh.Json

open FaultMesh.Text (decimalValue)
open FaultMesh.Decimal (FitsSigned FitsUnsigned)

theorem takeSignificand_cons (value : Nat) (digit : Char) (rest : List Char) :
    takeSignificand value (digit :: rest) =
      if value * 10 + decimalValue [digit] < 2 ^ 64 then
        takeSignificand (value * 10 + decimalValue [digit]) rest
      else (value, digit :: rest) := rfl

theorem takeSignificand_parts {value : Nat} (digits : List Char) (size : value < 2 ^ 64) :
    ∃ taken left, digits = taken ++ left ∧
      takeSignificand value digits =
        (value * 10 ^ taken.length + decimalValue taken, left) ∧
      value * 10 ^ taken.length + decimalValue taken < 2 ^ 64 ∧
      (value * 10 ^ digits.length + decimalValue digits < 2 ^ 64 → left = []) := by
  induction digits generalizing value with
  | nil => exact ⟨[], [], rfl, by simp [takeSignificand, decimalValue],
      by simpa [decimalValue] using size, fun _ => rfl⟩
  | cons digit rest ih =>
    have split (tail : List Char) : value * 10 ^ (digit :: tail).length +
          decimalValue (digit :: tail) =
        (value * 10 + decimalValue [digit]) * 10 ^ tail.length + decimalValue tail := by
      rw [show digit :: tail = [digit] ++ tail from rfl, Decimal.decimalValue_append,
        List.length_append, List.length_singleton, Nat.pow_add, Nat.add_mul, ← Nat.mul_assoc,
        Nat.pow_one, Nat.add_assoc]
    rw [takeSignificand_cons]
    by_cases fits : value * 10 + decimalValue [digit] < 2 ^ 64
    · obtain ⟨taken, left, parts, same, less, all⟩ := ih fits
      refine ⟨digit :: taken, left, by rw [parts, List.cons_append], ?_, ?_, ?_⟩
      · rw [if_pos fits, same, split]
      · rw [split]
        exact less
      · rw [split]
        exact all
    · refine ⟨[], digit :: rest, rfl, ?_, ?_, ?_⟩
      · rw [if_neg fits]
        simp [decimalValue]
      · simpa [decimalValue] using size
      · intro more
        rw [split] at more
        have one : 1 ≤ 10 ^ rest.length := Nat.one_le_pow _ _ (by decide)
        nlinarith

/-- Few digits before the point and a fraction: the power of ten is negative. -/
theorem Fractional.scaling {numeral : Numeral} (fractional : Fractional numeral) :
    numeral.scaling.1 < 2 ^ 64 ∧ numeral.scaling.2 < 0 := by
  have less := Decimal.decimalValue_lt numeral.whole
    fun c member => fractional.digit c (List.mem_append_left _ member)
  have bound : decimalValue numeral.whole < 10 ^ 16 :=
    less.trans_le (Nat.pow_le_pow_right (by decide) fractional.few)
  obtain ⟨taken, left, parts, upper, -, all⟩ :=
    takeSignificand_parts numeral.whole (by decide : 0 < 2 ^ 64)
  obtain rfl : left = [] := all (by omega)
  obtain ⟨place, places, shape⟩ := List.exists_cons_of_ne_nil fractional.places
  have first := Decimal.decimalValue_lt [place] fun c member =>
    fractional.digit c (List.mem_append_right _ (by simp_all))
  rw [List.append_nil] at parts
  rw [Nat.zero_mul, Nat.zero_add, ← parts] at upper
  have fits : decimalValue numeral.whole * 10 + decimalValue [place] < 2 ^ 64 := by
    simp only [List.length_singleton] at first
    omega
  obtain ⟨taken', left', parts', lower, size, -⟩ :=
    takeSignificand_parts places fits
  simp only [Numeral.scaling, upper, shape, takeSignificand_cons, if_pos fits, lower, fractional.power]
  refine ⟨size, ?_⟩
  rw [parts']
  simp only [List.length_cons, List.length_append, List.length_nil]
  omega

theorem Scientific.scaling {decimal : DecimalDigits} {numeral : Numeral}
    (scientific : Scientific decimal numeral) :
    ∃ taken left, decimal.digits = taken ++ left ∧
      numeral.scaling = (decimalValue taken, decimal.point - taken.length) ∧
      decimalValue taken < 2 ^ 64 ∧ (decimalValue decimal.digits < 2 ^ 64 → left = []) := by
  have less := Decimal.decimalValue_lt numeral.whole
    fun c member => scientific.digit c (List.mem_append_left _ member)
  rw [scientific.one] at less
  obtain ⟨taken, left, parts, upper, -, all⟩ :=
    takeSignificand_parts numeral.whole (by decide : 0 < 2 ^ 64)
  obtain rfl : left = [] := all (by omega)
  rw [List.append_nil] at parts
  rw [Nat.zero_mul, Nat.zero_add, ← parts] at upper
  obtain ⟨places, rest, parts', lower, size, all'⟩ :=
    takeSignificand_parts numeral.places (by omega : decimalValue numeral.whole < 2 ^ 64)
  rw [← scientific.digits]
  refine ⟨numeral.whole ++ places, rest, by rw [parts', List.append_assoc], ?_, ?_, ?_⟩
  · simp only [Numeral.scaling, upper, lower, Decimal.decimalValue_append]
    congr 1
    have length := congrArg List.length parts'
    have one := scientific.one
    have power := scientific.power
    simp only [List.length_append, List.length_nil] at length ⊢
    omega
  · rw [Decimal.decimalValue_append]
    exact size
  · rw [Decimal.decimalValue_append]
    exact all'

/-- Digits that are cut off only lower a shortest decimal. -/
theorem taken_le_shortest {x : Binary64} {taken left : List Char}
    (parts : (Decimal.shortestDigits x).digits = taken ++ left) :
    (decimalValue taken : ℚ) * 10 ^ ((Decimal.shortestDigits x).point - taken.length) ≤
      (Decimal.shortest x).1 * 10 ^ (Decimal.shortest x).2 := by
  unfold Decimal.shortestDigits at parts ⊢
  simp only at parts ⊢
  generalize Decimal.shortest x = decimal at parts ⊢
  obtain ⟨digits, scale⟩ := decimal
  simp only at parts ⊢
  obtain ⟨count, text⟩ := Decimal.eq_dropTrailingZeros_append (Nat.toDigits 10 digits)
  rw [parts] at text
  have value := congrArg decimalValue text
  rw [Decimal.decimalValue_toDigits, Decimal.decimalValue_append, Decimal.decimalValue_append,
    Decimal.decimalValue_zeros, List.length_replicate, Nat.add_zero] at value
  have more : decimalValue taken * 10 ^ (left.length + count) ≤ digits := by
    rw [value, Nat.pow_add, ← Nat.mul_assoc]
    exact Nat.mul_le_mul_right _ (Nat.le_add_right _ _)
  have cast : (decimalValue taken : ℚ) * 10 ^ (left.length + count) ≤ digits := by
    exact_mod_cast more
  have power : scale + (Nat.toDigits 10 digits).length - taken.length =
      ((left.length + count : Nat) : Int) + scale := by
    rw [text]
    simp only [List.length_append, List.length_replicate]
    omega
  rw [power, zpow_add₀ (by norm_num), zpow_natCast, ← mul_assoc]
  exact mul_le_mul_of_nonneg_right cast (by positivity)

theorem Scientific.real? {x : Binary64} (nonzero : x.isZero = false) {numeral : Numeral}
    (sign : numeral.negative = x.isNegative)
    (scientific : Scientific (Decimal.shortestDigits x) numeral) :
    ∃ y, numeral.real? = some y := by
  obtain ⟨taken, left, parts, scaling, size, all⟩ := scientific.scaling
  rw [Numeral.real?, scaling, sign]
  -- Rounding may lift the greatest doubles to the ceiling, so the bound is of no use there.
  by_cases top : (2 ^ 54 - 8) * (2 : ℚ) ^ (970 : Int) < x.value
  · have read := Binary64.readsShortest_top top
    simp only [Binary64.readsShortest, Bool.and_eq_true, decide_eq_true_eq] at read
    obtain rfl := all read.1
    rw [List.append_nil] at parts
    rw [parts] at read
    exact Option.isSome_iff_exists.mp read.2
  · have bound := (taken_le_shortest parts).trans
      (Binary64.shortest_le nonzero (not_lt.mp top))
    by_cases below : (Decimal.shortestDigits x).point - (taken.length : Int) < 0
    · exact Binary64.scaled?_of_negative _ size below
    · refine Binary64.scaled?_of_le _ size (by omega) ?_
      have units : 2 ^ 1024 - 7 * 2 ^ 970 = 18014398509481977 * 2 ^ 970 := by decide +kernel
      rw [units, ← Nat.cast_le (α := ℚ), Nat.cast_mul]
      rw [← Binary64.ten_zpow_toNat (by omega)] at bound
      exact_mod_cast bound

theorem Fractional.real? {numeral : Numeral} (fractional : Fractional numeral) :
    ∃ y, numeral.real? = some y :=
  Binary64.scaled?_of_negative _ fractional.scaling.1 fractional.scaling.2

/-- What a number is read as once it is written. -/
def reread (number : Number) : Number :=
  match scanNumber 0 (scalars number.render) with
  | .done numeral _ _ => numeral.number?.getD number
  | .stuck _ => number

theorem reread_spelled {number other : Number} {numeral : Numeral}
    (spells : Spells number.render numeral) (read : numeral.number? = some other) :
    reread number = other := by
  obtain ⟨stop, scanned⟩ := spells.scans 0 [] trivial
  rw [List.append_nil] at scanned
  rw [reread, scanned]
  simp only [read, Option.getD_some]

theorem number?_whole (value : Int) (fits : FitsSigned 64 value ∨ FitsUnsigned 64 value) :
    Numeral.number? ⟨decide (value < 0), Nat.toDigits 10 value.natAbs, [], 0, true, 0⟩ =
      some (Number.whole value fits) := by
  have magnitude : Numeral.magnitude
      ⟨decide (value < 0), Nat.toDigits 10 value.natAbs, [], 0, true, 0⟩ = value.natAbs :=
    Decimal.decimalValue_toDigits value.natAbs
  unfold Numeral.number?
  simp only [magnitude, if_true]
  by_cases negative : value < 0
  · have same : -(value.natAbs : Int) = value := by omega
    rw [if_pos (decide_eq_true negative), if_neg (by omega), same, Number.ofInt?,
      dif_pos fits, Option.some_or]
  · have same : (value.natAbs : Int) = value := by omega
    rw [if_neg (by simpa using negative), Number.ofNat?, same, Number.ofInt?, dif_pos fits,
      Option.some_or]

theorem reread_whole (value : Int) (fits : FitsSigned 64 value ∨ FitsUnsigned 64 value) :
    reread (.whole value fits) = .whole value fits :=
  reread_spelled (spells_renderWhole value fits) (number?_whole value fits)

theorem number?_real (x : Binary64) :
    ∃ numeral y, Spells (Number.real x).render numeral ∧
      numeral.number? = some (.real y) := by
  obtain ⟨numeral, spells, fraction, sign, laid⟩ := spells_renderReal x
  have read : ∃ y, numeral.real? = some y := by
    rcases laid with fractional | ⟨nonzero, scientific⟩
    · exact fractional.real?
    · exact scientific.real? nonzero sign
  obtain ⟨y, read⟩ := read
  exact ⟨numeral, y, spells, by simp [Numeral.number?, fraction, read]⟩

theorem spells_render (number : Number) :
    ∃ numeral, Spells number.render numeral ∧ numeral.number? = some (reread number) := by
  cases number with
  | whole value fits =>
    rw [reread_whole]
    exact ⟨_, spells_renderWhole value fits, number?_whole value fits⟩
  | real x =>
    obtain ⟨numeral, y, spells, read⟩ := number?_real x
    rw [reread_spelled spells read]
    exact ⟨numeral, spells, read⟩

end FaultMesh.Json
