import FaultMesh.Decimal.Integer
import FaultMesh.Proofs.Decimal.Digits
import FaultMesh.Proofs.Outcome

/-!
# Reading whole numbers

A text is read as a number exactly when it spells it, with or without a sign, and a word
holds the number.  So a number that a word holds is read back from its digits.
-/

set_option autoImplicit false

namespace FaultMesh.Decimal

open FaultMesh.Text (decimalValue)

def continued (value : Nat) (digits : List Char) : Nat :=
  value * 10 ^ digits.length + decimalValue digits

theorem continued_cons (value : Nat) (c : Char) (digits : List Char) :
    continued value (c :: digits) = continued (value * 10 + decimalValue [c]) digits := by
  have split := decimalValue_append [c] digits
  rw [List.singleton_append] at split
  rw [continued, continued, split, List.length_cons, Nat.pow_succ,
    Nat.add_mul, Nat.add_assoc, Nat.mul_assoc, Nat.mul_comm 10]

theorem le_continued (value : Nat) (digits : List Char) : value ≤ continued value digits := by
  have grows : value * 1 ≤ value * 10 ^ digits.length :=
    Nat.mul_le_mul_left value (Nat.one_le_pow _ _ (by decide))
  rw [continued]
  omega

def withSign (negative : Bool) (magnitude : Nat) : Int :=
  if negative then -(magnitude : Int) else magnitude

structure IsRow (digits : List Char) : Prop where
  nonempty : digits ≠ []
  digit : ∀ c ∈ digits, Text.isDigit c = true

inductive Spelled : List Char → Int → Prop
  | bare {digits : List Char} (row : IsRow digits) : Spelled digits (decimalValue digits)
  | plus {digits : List Char} (row : IsRow digits) : Spelled ('+' :: digits) (decimalValue digits)
  | minus {digits : List Char} (row : IsRow digits) :
    Spelled ('-' :: digits) (-(decimalValue digits : Int))

theorem readDigits_cons (negative : Bool) (low high : Int) (value : Nat) {c : Char}
    (digit : Text.isDigit c = true) (digits : List Char) :
    readDigits negative low high (withSign negative value) (c :: digits) =
      let next := withSign negative (value * 10 + decimalValue [c])
      if high < next then .error .tooLarge
      else if next < low then .error .tooSmall
      else readDigits negative low high next digits := by
  have step : (if negative = true then withSign negative value * 10 - (decimalValue [c] : Int)
      else withSign negative value * 10 + (decimalValue [c] : Int)) =
        withSign negative (value * 10 + decimalValue [c]) := by
    cases negative with
    | false => simp [withSign]
    | true =>
      simp only [withSign, if_true]
      omega
  rw [readDigits, if_neg (by simp [digit])]
  simp only [step]

section Range
variable {low high n : Int} (nonpositive : low ≤ 0) (nonnegative : 0 ≤ high)
include nonpositive nonnegative

theorem withSign_within (negative : Bool) {less more : Nat} (le : less ≤ more)
    (range : low ≤ withSign negative more ∧ withSign negative more ≤ high) :
    low ≤ withSign negative less ∧ withSign negative less ≤ high := by
  cases negative with
  | false =>
    simp only [withSign, Bool.false_eq_true, if_false] at range ⊢
    omega
  | true =>
    simp only [withSign, if_true] at range ⊢
    omega

/-- Digits are read exactly when the whole value is in range: on the way to it the numbers
only grow away from zero. -/
theorem readDigits_eq_ok (negative : Bool) {digits : List Char} {value : Nat}
    (start : low ≤ withSign negative value ∧ withSign negative value ≤ high) :
    readDigits negative low high (withSign negative value) digits = .ok n ↔
      (∀ c ∈ digits, Text.isDigit c = true) ∧
        n = withSign negative (continued value digits) ∧ low ≤ n ∧ n ≤ high := by
  induction digits generalizing value with
  | nil =>
    have done : continued value [] = value := by simp [continued, decimalValue]
    rw [readDigits, done, Except.ok.injEq]
    constructor
    · rintro rfl
      simpa using start
    · rintro ⟨-, rfl, -⟩
      rfl
  | cons c digits ih =>
    rw [continued_cons]
    by_cases digit : Text.isDigit c = true
    · rw [readDigits_cons negative low high value digit digits]
      have within : n = withSign negative (continued (value * 10 + decimalValue [c]) digits) →
          low ≤ n ∧ n ≤ high → low ≤ withSign negative (value * 10 + decimalValue [c]) ∧
            withSign negative (value * 10 + decimalValue [c]) ≤ high := by
        rintro rfl range
        exact withSign_within nonpositive nonnegative negative (le_continued _ digits) range
      simp only [List.forall_mem_cons, digit, true_and]
      by_cases large : high < withSign negative (value * 10 + decimalValue [c])
      · rw [if_pos large]
        refine iff_of_false (by simp) ?_
        rintro ⟨-, same, range⟩
        exact absurd (within same range).2 (by omega)
      rw [if_neg large]
      by_cases small : withSign negative (value * 10 + decimalValue [c]) < low
      · rw [if_pos small]
        refine iff_of_false (by simp) ?_
        rintro ⟨-, same, range⟩
        exact absurd (within same range).1 (by omega)
      rw [if_neg small]
      exact ih ⟨by omega, by omega⟩
    · have other : Text.isDigit c = false := Bool.not_eq_true _ ▸ digit
      rw [readDigits, if_pos digit]
      simp [other]

theorem readMagnitude_eq_ok (negative : Bool) {digits : List Char} :
    readMagnitude negative low high digits = .ok n ↔
      IsRow digits ∧ n = withSign negative (decimalValue digits) ∧ low ≤ n ∧ n ≤ high := by
  have zero : withSign negative 0 = 0 := by
    cases negative <;> rfl
  have start : low ≤ withSign negative 0 ∧ withSign negative 0 ≤ high := by
    rw [zero]
    exact ⟨nonpositive, nonnegative⟩
  have whole : continued 0 digits = decimalValue digits := by simp [continued]
  have read : readDigits negative low high (withSign negative 0) digits = .ok n ↔ _ :=
    readDigits_eq_ok nonpositive nonnegative negative start
  rw [zero, whole] at read
  cases digits with
  | nil =>
    refine iff_of_false (by simp [readMagnitude]) ?_
    rintro ⟨row, -⟩
    exact row.nonempty rfl
  | cons c digits =>
    rw [readMagnitude, if_neg (by simp), read]
    constructor
    · rintro ⟨digit, rest⟩
      exact ⟨⟨List.cons_ne_nil c digits, digit⟩, rest⟩
    · rintro ⟨row, rest⟩
      exact ⟨row.digit, rest⟩

end Range

theorem spelled_plus_iff {digits : List Char} {n : Int} :
    Spelled ('+' :: digits) n ↔ IsRow digits ∧ n = decimalValue digits := by
  constructor
  · intro spelled
    cases spelled with
    | bare row => exact absurd (row.digit '+' List.mem_cons_self) (by decide)
    | plus row => exact ⟨row, rfl⟩
  · rintro ⟨row, rfl⟩
    exact .plus row

theorem spelled_minus_iff {digits : List Char} {n : Int} :
    Spelled ('-' :: digits) n ↔ IsRow digits ∧ n = -(decimalValue digits : Int) := by
  constructor
  · intro spelled
    cases spelled with
    | bare row => exact absurd (row.digit '-' List.mem_cons_self) (by decide)
    | minus row => exact ⟨row, rfl⟩
  · rintro ⟨row, rfl⟩
    exact .minus row

theorem spelled_bare_iff {text : List Char} {n : Int} (plus : ∀ rest, text ≠ '+' :: rest)
    (minus : ∀ rest, text ≠ '-' :: rest) :
    Spelled text n ↔ IsRow text ∧ n = decimalValue text := by
  constructor
  · intro spelled
    cases spelled with
    | bare row => exact ⟨row, rfl⟩
    | plus row => exact absurd rfl (plus _)
    | minus row => exact absurd rfl (minus _)
  · rintro ⟨row, rfl⟩
    exact .bare row

theorem Spelled.unique {text : List Char} {n m : Int} (one : Spelled text n)
    (other : Spelled text m) : n = m := by
  cases one with
  | bare row =>
    have sign {c : Char} {rest : List Char} (same : text = c :: rest)
        (none : Text.isDigit c = false) : False := by
      rw [row.digit c (same ▸ List.mem_cons_self)] at none
      cases none
    have plus (rest : List Char) : text ≠ '+' :: rest := fun same => sign same (by decide)
    have minus (rest : List Char) : text ≠ '-' :: rest := fun same => sign same (by decide)
    exact ((spelled_bare_iff plus minus).mp other).2.symm
  | plus row => exact (spelled_plus_iff.mp other).2.symm
  | minus row => exact (spelled_minus_iff.mp other).2.symm

/-- A text is read as a number exactly when it spells it and the word holds it. -/
theorem readSigned_eq_ok {bits : Nat} {text : List Char} {n : Int} :
    readSigned bits text = .ok n ↔ Spelled text n ∧ FitsSigned bits n := by
  have positive : 0 < Nat.pow 2 (bits - 1) := Nat.pow_pos (by decide)
  have low : -(Nat.pow 2 (bits - 1) : Int) ≤ 0 := by omega
  have high : (0 : Int) ≤ Nat.pow 2 (bits - 1) - 1 := by omega
  have fits : FitsSigned bits n ↔
      -(Nat.pow 2 (bits - 1) : Int) ≤ n ∧ n ≤ Nat.pow 2 (bits - 1) - 1 := by
    rw [FitsSigned]
    omega
  rw [fits, readSigned]
  unfold readInteger
  split
  next =>
    refine iff_of_false (by simp) ?_
    rintro ⟨spelled, -⟩
    cases spelled with
    | bare row => exact row.nonempty rfl
  next digits =>
    rw [readMagnitude_eq_ok low high, spelled_plus_iff, and_assoc]
    rfl
  next digits =>
    rw [if_pos (by omega), readMagnitude_eq_ok low high, spelled_minus_iff, and_assoc]
    rfl
  next text plus minus =>
    rw [readMagnitude_eq_ok low high, spelled_bare_iff plus minus, and_assoc]
    rfl

theorem readUnsigned_row {bits : Nat} {digits : List Char} (row : IsRow digits) {n : Nat} :
    readUnsigned bits digits = .ok n ↔ n = decimalValue digits ∧ n < 2 ^ bits := by
  have positive : 0 < Nat.pow 2 bits := Nat.pow_pos (by decide)
  have high : (0 : Int) ≤ Nat.pow 2 bits - 1 := by omega
  have unsigned : readInteger 0 (Nat.pow 2 bits - 1) digits =
      readMagnitude false 0 (Nat.pow 2 bits - 1) digits := by
    unfold readInteger
    split
    next => exact absurd rfl row.nonempty
    next => exact absurd (row.digit '+' List.mem_cons_self) (by decide)
    next => exact absurd (row.digit '-' List.mem_cons_self) (by decide)
    next => rfl
  have size : n < 2 ^ bits ↔ (n : Int) ≤ Nat.pow 2 bits - 1 := by
    simp only [Nat.pow_eq]
    omega
  rw [readUnsigned, unsigned, map_eq_ok, size]
  simp only [readMagnitude_eq_ok (Int.le_refl 0) high]
  constructor
  · rintro ⟨value, ⟨-, rfl, -, within⟩, rfl⟩
    exact ⟨rfl, within⟩
  · rintro ⟨rfl, within⟩
    exact ⟨_, ⟨row, rfl, Int.natCast_nonneg _, within⟩, rfl⟩

theorem readSigned_toDigits {bits n : Nat} (fits : FitsSigned bits n) :
    readSigned bits (Nat.toDigits 10 n) = .ok (n : Int) := by
  have spelled := Spelled.bare ⟨Nat.toDigits_ne_nil, isDigit_toDigits n⟩
  rw [decimalValue_toDigits] at spelled
  exact readSigned_eq_ok.mpr ⟨spelled, fits⟩

end FaultMesh.Decimal
