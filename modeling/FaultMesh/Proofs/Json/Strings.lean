import FaultMesh.Json.Lexeme
import FaultMesh.Json.Writer

/-!
# Reading written strings

A string that was written is read back character by character: each escape sequence is
taken as the character that it stands for.
-/

set_option autoImplicit false

namespace FaultMesh.Json

open FaultMesh.Text (Glyph)

def scalars (text : List Char) : List Glyph := text.map .scalar

@[simp] theorem scalars_nil : scalars [] = [] := rfl

@[simp] theorem scalars_cons (c : Char) (text : List Char) :
    scalars (c :: text) = .scalar c :: scalars text := rfl

@[simp] theorem scalars_append (first second : List Char) :
    scalars (first ++ second) = scalars first ++ scalars second := by
  simp [scalars]

theorem digitValue?_hexDigit : ∀ n < 16, Text.digitValue? (hexDigit n) = some n := by
  decide

theorem utf8Size_hexDigit : ∀ n < 16, (hexDigit n).utf8Size = 1 := by
  decide

section Steps
variable (offset : Nat) (taken : List Char) (rest : List Glyph)

theorem scanString_plain {c : Char} (quote : c ≠ '"') (escape : c ≠ '\\')
    (printed : 0x20 ≤ c.toNat) :
    scanString offset (.plain none) (.ok taken) none (.scalar c :: rest) =
      scanString (offset + c.utf8Size) (.plain none) (.ok (c :: taken)) none rest := by
  rw [scanString]
  · simp [checkLead, Nat.not_lt.mpr printed, Reading.push, Except.map]
  · exact quote
  · exact escape

theorem scanString_letter {letter value : Char} (known : simpleEscape? letter = some value) :
    scanString offset (.plain none) (.ok taken) none
        (.scalar '\\' :: .scalar letter :: rest) =
      scanString (offset + 2) (.plain none) (.ok (value :: taken)) none rest := by
  have other : letter ≠ 'u' := by
    intro same
    subst same
    simp [simpleEscape?] at known
  rw [scanString, scanString]
  · simp [checkLead, known, Reading.push, Reading.settle, Except.map]
  · exact other

theorem scanString_digit {left value start n : Nat} (more : 1 < left) (small : n < 16) :
    scanString offset (.hex none left value start) (.ok taken) none
        (.scalar (hexDigit n) :: rest) =
      scanString (offset + 1) (.hex none (left - 1) (value * 16 + n) start) (.ok taken) none
        rest := by
  rw [scanString]
  simp [digitValue?_hexDigit n small, Nat.not_le.mpr more]

theorem scanString_lastDigit {value start n : Nat} (small : n < 16)
    (control : value * 16 + n < 0x20) :
    scanString offset (.hex none 1 value start) (.ok taken) none
        (.scalar (hexDigit n) :: rest) =
      scanString (offset + 1) (.plain none) (.ok (Char.ofNat (value * 16 + n) :: taken)) none
        rest := by
  have lead : isLead (value * 16 + n) = false := by simp [isLead]; omega
  have trail : isTrail (value * 16 + n) = false := by simp [isTrail]; omega
  rw [scanString]
  simp [digitValue?_hexDigit n small, acceptUnit, lead, trail, Reading.push, Except.map]

theorem scanString_control {c : Char} (control : c.toNat < 0x20) :
    scanString offset (.plain none) (.ok taken) none
        (scalars ['\\', 'u', '0', '0', hexDigit (c.toNat / 16), hexDigit (c.toNat % 16)]
          ++ rest) =
      scanString (offset + 6) (.plain none) (.ok (c :: taken)) none rest := by
  have zero : hexDigit 0 = '0' := by decide
  have wide : hasWidth 4 (scalars ['0', '0', hexDigit (c.toNat / 16), hexDigit (c.toNat % 16)]
      ++ rest) = true := by
    simp [hasWidth, Glyph.width, utf8Size_hexDigit (c.toNat / 16) (by omega),
      utf8Size_hexDigit (c.toNat % 16) (by omega), show '0'.utf8Size = 1 by decide]
  have value : c.toNat / 16 * 16 + c.toNat % 16 = c.toNat := by omega
  simp only [scalars_cons, scalars_nil, List.cons_append, List.nil_append] at wide ⊢
  rw [scanString, scanString, if_pos wide, ← zero]
  simp only [Reading.settle]
  rw [scanString_digit _ _ _ (by omega) (by omega), scanString_digit _ _ _ (by omega) (by omega),
    scanString_digit _ _ _ (by omega) (by omega),
    scanString_lastDigit _ _ _ (by omega) (by omega)]
  simp only [Nat.zero_mul, Nat.zero_add, value, Char.ofNat_toNat]

end Steps

/-- One written character is one character of what is read. -/
theorem scanString_escapeChar (c : Char) (offset : Nat) (taken : List Char)
    (rest : List Glyph) :
    ∃ stop, scanString offset (.plain none) (.ok taken) none
        (scalars (escapeChar c) ++ rest) =
      scanString stop (.plain none) (.ok (c :: taken)) none rest := by
  unfold escapeChar
  split
  next quote => subst quote; exact ⟨_, scanString_letter _ _ _ rfl⟩
  split
  next escape => subst escape; exact ⟨_, scanString_letter _ _ _ rfl⟩
  split
  next control =>
    split
    next same => subst same; exact ⟨_, scanString_letter _ _ _ rfl⟩
    split
    next same => subst same; exact ⟨_, scanString_letter _ _ _ rfl⟩
    split
    next same => subst same; exact ⟨_, scanString_letter _ _ _ rfl⟩
    split
    next same => subst same; exact ⟨_, scanString_letter _ _ _ rfl⟩
    split
    next same => subst same; exact ⟨_, scanString_letter _ _ _ rfl⟩
    next => exact ⟨_, scanString_control _ _ _ control⟩
  next quote escape printed =>
    exact ⟨_, scanString_plain _ _ _ quote escape (Nat.not_lt.mp printed)⟩

theorem scanString_written (text : List Char) (offset : Nat) (taken : List Char)
    (rest : List Glyph) :
    ∃ stop, scanString offset (.plain none) (.ok taken) none
        (scalars (text.flatMap escapeChar) ++ .scalar '"' :: rest) =
      .done (.ok (String.ofList (taken.reverse ++ text))) stop rest := by
  induction text generalizing offset taken with
  | nil =>
    refine ⟨offset + 1, ?_⟩
    simp [scalars, scanString, checkLead, Reading.settle, Except.map]
  | cons c text ih =>
    obtain ⟨next, step⟩ := scanString_escapeChar c offset taken
      (scalars (text.flatMap escapeChar) ++ .scalar '"' :: rest)
    obtain ⟨stop, read⟩ := ih next (c :: taken)
    refine ⟨stop, ?_⟩
    rw [List.flatMap_cons, scalars_append, List.append_assoc, step, read]
    simp

end FaultMesh.Json
