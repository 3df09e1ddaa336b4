import FaultMesh.Json.Lexeme
import FaultMesh.Proofs.Decimal.Digits
import FaultMesh.Proofs.Json.Strings

/-!
# Reading written numbers

What a written number is read as.  A number ends where a comma, a closing bracket or the
text ends; then the digits, the point and the exponent that were written are those that
are read, wherever in a document the number stands.
-/

set_option autoImplicit false

namespace FaultMesh.Json

open FaultMesh.Text (Glyph)
open FaultMesh.Decimal (Plain FitsSigned FitsUnsigned)

/-- What may stand behind a value. -/
def Ends : List Glyph → Prop
  | [] => True
  | glyph :: _ => glyph = .scalar ',' ∨ glyph = .scalar ']' ∨ glyph = .scalar '\x7d'

/-- A text that is read as a numeral wherever it stands, and begins like one. -/
structure Spells (text : List Char) (numeral : Numeral) : Prop where
  begins : ∃ c rest, text = c :: rest ∧ (c = '-' ∨ Text.isDigit c = true)
  scans : ∀ offset rest, Ends rest →
    ∃ stop, scanNumber offset (scalars text ++ rest) = .done numeral stop rest

def Stops : List Glyph → Prop
  | [] => True
  | .stray _ :: _ => True
  | .scalar c :: _ => Text.isDigit c = false

theorem Ends.stops {rest : List Glyph} (ends : Ends rest) : Stops rest := by
  cases rest with
  | nil => trivial
  | cons glyph rest =>
    rcases ends with rfl | rfl | rfl
    · exact (by decide : Text.isDigit ',' = false)
    · exact (by decide : Text.isDigit ']' = false)
    · exact (by decide : Text.isDigit '\x7d' = false)

theorem takeDigits_append {digits : List Char} {rest : List Glyph}
    (digit : ∀ c ∈ digits, Text.isDigit c = true) (stops : Stops rest) :
    takeDigits (scalars digits ++ rest) = (digits, rest) := by
  induction digits with
  | nil =>
    cases rest with
    | nil => rfl
    | cons glyph rest =>
      cases glyph with
      | stray width => rfl
      | scalar c => simp [takeDigits, show Text.isDigit c = false from stops]
  | cons c digits ih =>
    have tail := ih fun d member => digit d (List.mem_cons_of_mem c member)
    simp [takeDigits, digit c List.mem_cons_self, tail]

section Parts
variable (negative : Bool) (whole places : List Char) (offset : Nat) {rest : List Glyph}

theorem scanExponent_ends (ends : Ends rest) :
    scanExponent negative whole places offset rest =
      .done ⟨negative, whole, places, 0, places.isEmpty, 0⟩ offset rest := by
  cases rest with
  | nil => rfl
  | cons glyph rest => rcases ends with rfl | rfl | rfl <;> simp [scanExponent]

theorem scanExponent_written {digits : List Char} (below : Bool) (row : Plain digits)
    (ends : Ends rest) :
    ∃ stop, scanExponent negative whole places offset
        (.scalar 'e' :: .scalar (if below then '-' else '+') :: (scalars digits ++ rest)) =
      .done ⟨negative, whole, places,
        if below then -(Text.decimalValue digits : Int) else Text.decimalValue digits, false,
        surplusDigits 0 digits⟩ stop rest := by
  have taken := takeDigits_append row.digit ends.stops
  have some : digits.isEmpty = false := by simpa using row.nonempty
  refine ⟨offset + 2 + digits.length, ?_⟩
  cases below <;> simp [scanExponent, taken, some]

theorem scanFraction_written (some : places ≠ []) (digit : ∀ c ∈ places, Text.isDigit c = true)
    (stops : Stops rest) :
    scanFraction negative whole offset (.scalar '.' :: (scalars places ++ rest)) =
      scanExponent negative whole places (offset + 1 + places.length) rest := by
  simp [scanFraction, takeDigits_append digit stops, some]

end Parts

def signed (negative : Bool) (text : List Char) : List Char :=
  if negative then '-' :: text else text

theorem signed_append (negative : Bool) (first second : List Char) :
    signed negative (first ++ second) = signed negative first ++ second := by
  cases negative <;> rfl

theorem signed_begins (negative : Bool) {whole : List Char} (row : Plain whole)
    (text : List Char) :
    ∃ c rest, signed negative whole ++ text = c :: rest ∧
      (c = '-' ∨ Text.isDigit c = true) := by
  obtain ⟨c, digits, shape⟩ := List.exists_cons_of_ne_nil row.nonempty
  cases negative with
  | true => exact ⟨'-', whole ++ text, rfl, .inl rfl⟩
  | false =>
    exact ⟨c, digits ++ text, by simp [signed, shape],
      .inr (row.digit c (shape ▸ List.mem_cons_self))⟩

theorem scanNumber_digits {whole : List Char} {rest : List Glyph} (row : Plain whole)
    (taken : takeDigits (scalars whole ++ rest) = (whole, rest)) (negative : Bool)
    (offset : Nat) :
    scanNumber offset (scalars (signed negative whole) ++ rest) =
      scanFraction negative whole (offset + (if negative then 1 else 0) + whole.length) rest := by
  obtain ⟨c, digits, shape⟩ := List.exists_cons_of_ne_nil row.nonempty
  have minus (tail others : List Glyph) : Glyph.scalar c :: tail ≠ .scalar '-' :: others := by
    intro same
    have sign : c = '-' := Glyph.scalar.inj (List.cons.inj same).1
    exact absurd (row.digit c (shape ▸ List.mem_cons_self)) (sign ▸ by decide)
  subst shape
  -- in the context, this rules out the pattern of a zero in front of other digits
  have leading := row.noZero
  simp only [scalars_cons, List.cons_append] at taken
  cases negative with
  | true =>
    simp only [signed, if_true, scalars_cons, List.cons_append, scanNumber, taken]
  | false =>
    simp only [signed, Bool.false_eq_true, if_false, scalars_cons, List.cons_append, scanNumber,
      minus, taken, imp_self, implies_true, Nat.add_zero]

/-- Digits behind a point, if there are any. -/
def fraction : List Char → List Char
  | [] => []
  | place :: places => '.' :: place :: places

section Texts
variable (negative : Bool) {whole places digits : List Char}

theorem spells_whole (row : Plain whole) :
    Spells (signed negative whole) ⟨negative, whole, [], 0, true, 0⟩ where
  begins := by simpa using signed_begins negative row []
  scans offset rest ends := by
    have plain : scanFraction negative whole
        (offset + (if negative then 1 else 0) + whole.length) rest =
          scanExponent negative whole []
            (offset + (if negative then 1 else 0) + whole.length) rest := by
      cases rest with
      | nil => rfl
      | cons glyph rest => rcases ends with rfl | rfl | rfl <;> simp [scanFraction]
    rw [scanNumber_digits row (takeDigits_append row.digit ends.stops), plain,
      scanExponent_ends _ _ _ _ ends]
    exact ⟨_, rfl⟩

theorem spells_fraction (row : Plain whole) (some : places ≠ [])
    (digit : ∀ c ∈ places, Text.isDigit c = true) :
    Spells (signed negative whole ++ '.' :: places)
      ⟨negative, whole, places, 0, false, 0⟩ where
  begins := signed_begins negative row _
  scans offset rest ends := by
    have point : Stops (.scalar '.' :: (scalars places ++ rest)) :=
      (by decide : Text.isDigit '.' = false)
    have empty : places.isEmpty = false := by simpa using some
    rw [scalars_append, List.append_assoc, scalars_cons, List.cons_append,
      scanNumber_digits row (takeDigits_append row.digit point),
      scanFraction_written _ _ _ _ some digit ends.stops, scanExponent_ends _ _ _ _ ends, empty]
    exact ⟨_, rfl⟩

theorem spells_exponent (below : Bool) (row : Plain whole)
    (digit : ∀ c ∈ places, Text.isDigit c = true) (exponent : Plain digits) :
    Spells (signed negative whole ++ fraction places ++
        'e' :: (if below then '-' else '+') :: digits)
      ⟨negative, whole, places,
        if below then -(Text.decimalValue digits : Int) else Text.decimalValue digits, false,
        surplusDigits 0 digits⟩ where
  begins := by
    rw [List.append_assoc]
    exact signed_begins negative row _
  scans offset rest ends := by
    have letter (rest : List Glyph) : Stops (.scalar 'e' :: rest) :=
      (by decide : Text.isDigit 'e' = false)
    have point (rest : List Glyph) : Stops (.scalar '.' :: rest) :=
      (by decide : Text.isDigit '.' = false)
    simp only [scalars_append, scalars_cons, List.append_assoc, List.cons_append]
    cases places with
    | nil =>
      rw [fraction, scalars_nil, List.nil_append,
        scanNumber_digits row (takeDigits_append row.digit (letter _))]
      simp only [scanFraction]
      exact scanExponent_written _ _ _ _ below exponent ends
    | cons place places =>
      rw [fraction, scalars_cons, List.cons_append,
        scanNumber_digits row (takeDigits_append row.digit (point _)),
        scanFraction_written _ _ _ _ (by simp) digit (letter _)]
      exact scanExponent_written _ _ _ _ below exponent ends

end Texts

/-! ## Texts of whole numbers and reals -/

theorem spells_renderWhole (value : Int) (fits : FitsSigned 64 value ∨ FitsUnsigned 64 value) :
    Spells (Number.whole value fits).render
      ⟨decide (value < 0), Nat.toDigits 10 value.natAbs, [], 0, true, 0⟩ := by
  have text : (Number.whole value fits).render =
      signed (decide (value < 0)) (Nat.toDigits 10 value.natAbs) := by
    rw [Number.render, Int.toString_eq_repr, Int.repr_eq_if]
    by_cases negative : value < 0
    · rw [if_neg (by omega), String.toList_append, Nat.toList_repr,
        show (-value).toNat = value.natAbs by omega]
      simp [signed, negative]
    · rw [if_pos (by omega), Nat.toList_repr, show value.toNat = value.natAbs by omega]
      simp [signed, negative]
  rw [text]
  exact spells_whole _ (Decimal.plain_toDigits _)

theorem isDigit_zeros (count : Nat) :
    ∀ c ∈ List.replicate count '0', Text.isDigit c = true := by
  intro c member
  rw [List.eq_of_mem_replicate member]
  decide

theorem plain_zero : Plain ['0'] where
  digit := isDigit_zeros 1
  nonempty := by decide
  noZero d others same := by cases same

theorem writePositional_parts {c : Char} {rest : List Char} {point : Int}
    (digit : ∀ d ∈ c :: rest, Text.isDigit d = true) (first : c ≠ '0') (low : point ≤ 16) :
    ∃ whole places, Number.layout.writePositional ⟨c :: rest, point⟩ = whole ++ '.' :: places ∧
      Plain whole ∧ places ≠ [] ∧ (∀ d ∈ places, Text.isDigit d = true) ∧ whole.length ≤ 16 := by
  unfold DecimalLayout.writePositional DecimalLayout.zeros
  simp only [List.length_cons]
  split
  next below =>
    refine ⟨['0'], List.replicate (-point).toNat '0' ++ c :: rest, by simp, plain_zero, by simp,
      ?_, by simp⟩
    intro d member
    rcases List.mem_append.mp member with zero | written
    · exact isDigit_zeros _ d zero
    · exact digit d written
  split
  next whole =>
    refine ⟨c :: rest ++ List.replicate (point - (rest.length + 1 : Nat)).toNat '0', ['0'],
      by simp [Number.layout], ⟨?_, by simp, ?_⟩, by simp, isDigit_zeros 1, ?_⟩
    · intro d member
      rcases List.mem_append.mp member with written | zero
      · exact digit d written
      · exact isDigit_zeros _ d zero
    · intro d others same
      exact first (List.cons.inj same).1
    · simp only [List.length_append, List.length_cons, List.length_replicate]
      omega
  next inside positive =>
    obtain ⟨count, size⟩ : ∃ count, point.toNat = count + 1 := ⟨point.toNat - 1, by omega⟩
    refine ⟨(c :: rest).take point.toNat, (c :: rest).drop point.toNat, by simp,
      ⟨?_, by simp [size], ?_⟩, ?_, ?_, ?_⟩
    · exact fun d member => digit d (List.mem_of_mem_take member)
    · intro d others same
      rw [size, List.take_succ_cons] at same
      exact first (List.cons.inj same).1
    · intro none
      rw [List.drop_eq_nil_iff, List.length_cons] at none
      omega
    · exact fun d member => digit d (List.mem_of_mem_drop member)
    · rw [List.length_take]
      omega

theorem writeScientific_parts (c : Char) (rest : List Char) (point : Int) :
    Number.layout.writeScientific ⟨c :: rest, point⟩ =
      [c] ++ fraction rest ++
        'e' :: (if decide (point - 1 < 0) then '-' else '+') ::
          Nat.toDigits 10 (point - 1).natAbs := by
  unfold DecimalLayout.writeScientific
  by_cases below : point - 1 < 0 <;> cases rest <;>
    simp [Number.layout, fraction, below]

/-- A numeral without an exponent: it has a fraction, and few digits before the point. -/
structure Fractional (numeral : Numeral) : Prop where
  digit : ∀ c ∈ numeral.whole ++ numeral.places, Text.isDigit c = true
  power : numeral.power = 0
  places : numeral.places ≠ []
  few : numeral.whole.length ≤ 16

/-- A numeral with one digit of a decimal before the point and the others behind it. -/
structure Scientific (decimal : DecimalDigits) (numeral : Numeral) : Prop where
  digit : ∀ c ∈ numeral.whole ++ numeral.places, Text.isDigit c = true
  one : numeral.whole.length = 1
  digits : numeral.whole ++ numeral.places = decimal.digits
  power : numeral.power = decimal.point - 1

theorem spells_renderReal (x : Binary64) :
    ∃ numeral, Spells (Number.real x).render numeral ∧ numeral.integral = false ∧
      numeral.negative = x.isNegative ∧
      (Fractional numeral ∨ x.isZero = false ∧ Scientific (Decimal.shortestDigits x) numeral) := by
  have sign (text : List Char) :
      (if x.isNegative then ['-'] else []) ++ text = signed x.isNegative text := by
    cases x.isNegative <;> rfl
  simp only [Number.render, DecimalLayout.write, sign]
  cases zero : x.isZero with
  | true =>
    refine ⟨⟨x.isNegative, ['0'], ['0'], 0, false, 0⟩, ?_, rfl, rfl,
      .inl ⟨isDigit_zeros 2, rfl, by simp, by simp⟩⟩
    simpa [Number.layout, ← signed_append] using
      spells_fraction x.isNegative plain_zero (by simp : ['0'] ≠ []) (isDigit_zeros 1)
  | false =>
    obtain ⟨c, rest, digits, first, digit⟩ :=
      Decimal.head_dropTrailingZeros (Decimal.shortest_positive zero)
    have shape : Decimal.shortestDigits x = ⟨c :: rest, (Decimal.shortestDigits x).point⟩ := by
      simp only [Decimal.shortestDigits, digits]
    generalize (Decimal.shortestDigits x).point = point at shape
    simp only [shape, Bool.false_eq_true, if_false]
    split
    next short =>
      have low : point ≤ 16 := by
        simp only [Number.layout, Bool.and_eq_true, decide_eq_true_eq] at short
        omega
      obtain ⟨whole, places, text, row, some, digit, size⟩ :=
        writePositional_parts digit first low
      refine ⟨⟨x.isNegative, whole, places, 0, false, 0⟩, ?_, rfl, rfl,
        .inl ⟨?_, rfl, some, size⟩⟩
      · rw [text, signed_append]
        exact spells_fraction x.isNegative row some digit
      · intro d member
        exact (List.mem_append.mp member).elim (row.digit d) (digit d)
    next long =>
      have row : Plain [c] := ⟨fun d member => digit d (by simp_all), by simp, by simp⟩
      let exponent := Nat.toDigits 10 (point - 1).natAbs
      refine ⟨⟨x.isNegative, [c], rest,
        if decide (point - 1 < 0) then -(Text.decimalValue exponent : Int)
        else Text.decimalValue exponent, false, surplusDigits 0 exponent⟩, ?_, rfl, rfl,
        .inr ⟨trivial, digit, rfl, rfl, ?_⟩⟩
      · rw [writeScientific_parts, List.append_assoc, signed_append, ← List.append_assoc]
        exact spells_exponent x.isNegative _ row
          (fun d member => digit d (List.mem_cons_of_mem c member)) (Decimal.plain_toDigits _)
      · simp only [exponent, Decimal.decimalValue_toDigits, decide_eq_true_eq]
        split <;> omega

end FaultMesh.Json
