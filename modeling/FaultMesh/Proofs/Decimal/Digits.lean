import Mathlib.Algebra.Group.Nat.Defs
import FaultMesh.Decimal.Shortest
import FaultMesh.Text.Blank

/-!
# Decimal digits

The value of a row of digits, and the digits of a number: they are digits, the first one
is no zero, and their value is the number again.
-/

set_option autoImplicit false

namespace FaultMesh.Decimal

open FaultMesh.Text (decimalValue)

/-- A row of one or more digits without a zero in front, unless the zero is all of it. -/
structure Plain (digits : List Char) : Prop where
  digit : ∀ c ∈ digits, Text.isDigit c = true
  nonempty : digits ≠ []
  noZero : ∀ c rest, digits = '0' :: c :: rest → False

theorem isDigit_eq (c : Char) : Text.isDigit c = c.isDigit := by
  simp [Text.isDigit, Char.isDigit, Char.le_def]

theorem decimalValue_eq (digits : List Char) :
    decimalValue digits = Nat.ofDigitChars 10 digits 0 := by
  simp only [decimalValue, Nat.ofDigitChars, Nat.mul_comm 10]
  rfl

theorem decimalValue_append (first second : List Char) :
    decimalValue (first ++ second) =
      decimalValue first * 10 ^ second.length + decimalValue second := by
  rw [decimalValue_eq, decimalValue_eq, decimalValue_eq, Nat.ofDigitChars_append,
    Nat.ofDigitChars_eq_ofDigitChars_zero, Nat.mul_comm]

theorem decimalValue_toDigits (n : Nat) : decimalValue (Nat.toDigits 10 n) = n := by
  rw [decimalValue_eq, Nat.ofDigitChars_ten_toDigits]

theorem decimalValue_zeros (count : Nat) : decimalValue (List.replicate count '0') = 0 := by
  rw [decimalValue_eq, Nat.ofDigitChars_replicate_zero, Nat.mul_zero]

theorem decimalValue_lt (digits : List Char) (digit : ∀ c ∈ digits, Text.isDigit c = true) :
    decimalValue digits < 10 ^ digits.length := by
  induction digits with
  | nil => simp [decimalValue]
  | cons c rest ih =>
    have below := ih fun d member => digit d (List.mem_cons_of_mem c member)
    have one := digit c List.mem_cons_self
    rw [isDigit_eq, Char.isDigit_iff_toNat] at one
    have split := decimalValue_append [c] rest
    have value : decimalValue [c] = c.toNat - 48 := by simp [decimalValue]
    have top : '9'.toNat = 57 := rfl
    rw [List.singleton_append, value] at split
    rw [split, List.length_cons, Nat.pow_succ]
    have : (c.toNat - 48) * 10 ^ rest.length ≤ 9 * 10 ^ rest.length :=
      Nat.mul_le_mul_right _ (by omega)
    omega

theorem isDigit_toDigits (n : Nat) : ∀ c ∈ Nat.toDigits 10 n, Text.isDigit c = true := by
  intro c member
  rw [isDigit_eq]
  exact Nat.isDigit_of_mem_toDigits (by decide) (by decide) member

theorem head_toDigits {n : Nat} (positive : 0 < n) :
    ∃ c rest, Nat.toDigits 10 n = c :: rest ∧ c ≠ '0' := by
  induction n using Nat.base_induction 10 (by decide) with
  | single m small =>
    refine ⟨m.digitChar, [], Nat.toDigits_of_lt_base small, ?_⟩
    rw [ne_eq, Nat.digitChar_eq_zero]
    omega
  | digit m k small upper ih =>
    obtain ⟨c, rest, digits, first⟩ := ih upper
    refine ⟨c, rest ++ Nat.toDigits 10 k, ?_, first⟩
    rw [← Nat.toDigits_append_toDigits (by decide) upper small, digits, List.cons_append]

theorem plain_toDigits (n : Nat) : Plain (Nat.toDigits 10 n) where
  digit := isDigit_toDigits n
  nonempty := Nat.toDigits_ne_nil
  noZero := by
    intro c rest same
    rcases Nat.eq_zero_or_pos n with zero | positive
    · subst zero
      simp [Nat.toDigits_zero] at same
    · obtain ⟨d, others, digits, first⟩ := head_toDigits positive
      rw [digits, List.cons.injEq] at same
      exact first same.1

theorem eq_dropTrailingZeros_append (digits : List Char) :
    ∃ count, digits = dropTrailingZeros digits ++ List.replicate count '0' := by
  refine ⟨(digits.reverse.takeWhile (· = '0')).length, ?_⟩
  have zeros : digits.reverse.takeWhile (· = '0') =
      List.replicate (digits.reverse.takeWhile (· = '0')).length '0' := by
    refine List.eq_replicate_of_mem fun c member => ?_
    have := List.all_takeWhile (l := digits.reverse) (p := fun c => decide (c = '0'))
    simpa using List.all_eq_true.mp this c member
  have parts := List.takeWhile_append_dropWhile (p := fun c => decide (c = '0'))
    (l := digits.reverse)
  have reversed := congrArg List.reverse parts
  rw [List.reverse_append, List.reverse_reverse, zeros, List.reverse_replicate] at reversed
  exact reversed.symm

theorem head_dropTrailingZeros {n : Nat} (positive : 0 < n) :
    ∃ c rest, dropTrailingZeros (Nat.toDigits 10 n) = c :: rest ∧ c ≠ '0' ∧
      ∀ d ∈ c :: rest, Text.isDigit d = true := by
  obtain ⟨first, others, digits, nonzero⟩ := head_toDigits positive
  obtain ⟨count, parts⟩ := eq_dropTrailingZeros_append (Nat.toDigits 10 n)
  cases kept : dropTrailingZeros (Nat.toDigits 10 n) with
  | nil =>
    rw [kept, List.nil_append, digits] at parts
    have zero := List.eq_of_mem_replicate (parts ▸ List.mem_cons_self : first ∈ _)
    exact absurd zero nonzero
  | cons c rest =>
    refine ⟨c, rest, rfl, ?_, ?_⟩
    · rw [kept, digits, List.cons_append, List.cons.injEq] at parts
      exact parts.1 ▸ nonzero
    · intro d member
      refine isDigit_toDigits n d ?_
      rw [parts, kept]
      exact List.mem_append_left _ member

theorem neighbour_readsBack {x : Binary64} {count : Nat} {decimal : Nat × Int}
    (found : neighbour? x count = some decimal) : readsBack x decimal.1 decimal.2 = true := by
  have either (nearer farther : Nat) (scale : Int)
      (hit : (if readsBack x nearer scale then some (nearer, scale)
        else if readsBack x farther scale then some (farther, scale) else none) = some decimal) :
      readsBack x decimal.1 decimal.2 = true := by
    split at hit
    next back => cases hit; exact back
    split at hit
    next back => cases hit; exact back
    next => cases hit
  exact either _ _ _ found

/-- A shortest decimal reads back, unless it is the exact one. -/
theorem shortest_cases (x : Binary64) :
    readsBack x (shortest x).1 (shortest x).2 = true ∨ shortest x = exact x := by
  unfold shortest
  cases found : (List.range 17).findSome? fun i => neighbour? x (i + 1) with
  | none => exact .inr rfl
  | some decimal =>
    obtain ⟨i, -, neighbour⟩ := List.exists_of_findSome?_eq_some found
    exact .inl (neighbour_readsBack neighbour)

theorem shortest_positive {x : Binary64} (nonzero : x.isZero = false) : 0 < (shortest x).1 := by
  refine Nat.pos_of_ne_zero fun none => ?_
  rcases shortest_cases x with back | same
  · rw [none, readsBack, Binary64.ofDecimal?, if_pos rfl, beq_iff_eq] at back
    cases negative : x.isNegative <;>
      simp only [negative, Bool.false_eq_true, if_false, if_true, Option.some.injEq] at back <;>
      subst back <;> revert nonzero <;> decide
  · have some : x.significand ≠ 0 := by simpa [Binary64.isZero] using nonzero
    rw [same] at none
    unfold exact at none
    split at none
    · exact absurd none (Nat.mul_ne_zero some (by simp))
    · exact absurd none (Nat.mul_ne_zero some (by simp))

end FaultMesh.Decimal
