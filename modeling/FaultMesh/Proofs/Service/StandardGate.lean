import FaultMesh.Regex.Pattern
import FaultMesh.Proofs.Regex.Language
import FaultMesh.Proofs.Service.PathGate

/-!
# The language of the standard gate

The standard gate takes numbers and identifiers: groups of hexadecimal digits between hyphens.
Its pattern reads exactly these texts, from their start to their end, and so does the pattern
that its written form stands for.  Whatever the pattern of a gate, the first parameter that
does not pass decides.
-/

set_option autoImplicit false

open scoped Computability

namespace FaultMesh

namespace PathGate

def IsDigit (c : Char) : Prop := '0' ≤ c ∧ c ≤ '9'

def IsLowerHex (c : Char) : Prop := IsDigit c ∨ ('a' ≤ c ∧ c ≤ 'f')

def IsVariant (c : Char) : Prop := c = '8' ∨ c = '9' ∨ c = 'a' ∨ c = 'b'

instance : DecidablePred IsDigit := fun c => inferInstanceAs (Decidable ('0' ≤ c ∧ c ≤ '9'))

instance : DecidablePred IsLowerHex := fun c =>
  inferInstanceAs (Decidable (IsDigit c ∨ ('a' ≤ c ∧ c ≤ 'f')))

structure IsNumber (text : List Char) : Prop where
  filled : text ≠ []
  digits : ∀ c ∈ text, IsDigit c

/-- Groups of hexadecimal digits: the third begins with the version and the fourth with the
variant. -/
structure AreGroups (groups : List (List Char)) : Prop where
  sizes : groups.map List.length = [8, 4, 4, 4, 12]
  digits : ∀ group ∈ groups, ∀ c ∈ group, IsLowerHex c
  version : ∃ rest, groups[2]? = some ('4' :: rest)
  variant : ∃ c rest, groups[3]? = some (c :: rest) ∧ IsVariant c

def IsIdentifier (text : List Char) : Prop :=
  ∃ groups, AreGroups groups ∧ text = ['-'].intercalate groups

theorem IsVariant.lowerHex {c : Char} (variant : IsVariant c) : IsLowerHex c := by
  rcases variant with rfl | rfl | rfl | rfl
  · decide
  · decide
  · decide
  · decide

def IsRun (count : Nat) (text : List Char) : Prop :=
  text.length = count ∧ ∀ c ∈ text, IsLowerHex c

/-- The groups of an identifier by themselves, with the version and the variant cut off. -/
theorem isIdentifier_iff {text : List Char} :
    IsIdentifier text ↔ ∃ first second third variant fourth fifth,
      text = first ++ '-' :: (second ++ '-' :: ('4' :: third ++ '-' ::
        (variant :: fourth ++ '-' :: fifth))) ∧
      IsRun 8 first ∧ IsRun 4 second ∧ IsRun 3 third ∧ IsVariant variant ∧ IsRun 3 fourth ∧
        IsRun 12 fifth := by
  constructor
  · intro ⟨groups, ⟨sizes, digits, ⟨third, version⟩, variant, fourth, led, among⟩, whole⟩
    -- There are as many groups as sizes.
    simp only [List.map_eq_cons_iff, List.map_eq_nil_iff] at sizes
    obtain ⟨first, _, rfl, size1, second, _, rfl, size2, _, _, rfl, size3, _, _, rfl, size4,
      fifth, _, rfl, size5, rfl⟩ := sizes
    obtain rfl := Option.some.inj version
    obtain rfl := Option.some.inj led
    simp only [List.forall_mem_cons] at digits
    obtain ⟨hex1, hex2, ⟨-, hex3⟩, ⟨-, hex4⟩, hex5, -⟩ := digits
    refine ⟨first, second, third, variant, fourth, fifth, ?_, ⟨size1, hex1⟩, ⟨size2, hex2⟩,
      ⟨Nat.succ.inj size3, hex3⟩, among, ⟨Nat.succ.inj size4, hex4⟩, size5, hex5⟩
    rw [whole]
    simp [List.intercalate]
  · intro ⟨first, second, third, variant, fourth, fifth, whole, ⟨size1, hex1⟩, ⟨size2, hex2⟩,
      ⟨size3, hex3⟩, among, ⟨size4, hex4⟩, size5, hex5⟩
    refine ⟨[first, second, '4' :: third, variant :: fourth, fifth], ⟨?_, ?_, ⟨_, rfl⟩, ?_⟩, ?_⟩
    · simp [size1, size2, size3, size4, size5]
    · simp only [List.forall_mem_cons]
      exact ⟨hex1, hex2, ⟨by decide, hex3⟩, ⟨among.lowerHex, hex4⟩, hex5, List.forall_mem_nil _⟩
    · exact ⟨_, _, rfl, among⟩
    · rw [whole]
      simp [List.intercalate]

theorem IsIdentifier.length {text : List Char} (identifier : IsIdentifier text) :
    text.length = 36 := by
  obtain ⟨first, second, third, variant, fourth, fifth, rfl, ⟨size1, -⟩, ⟨size2, -⟩,
    ⟨size3, -⟩, -, ⟨size4, -⟩, size5, -⟩ := isIdentifier_iff.mp identifier
  simp [size1, size2, size3, size4, size5]

end PathGate

namespace CharSet
variable {c : Char}

theorem contains_range (low high : Char) :
    (CharSet.range low.toNat high.toNat).contains c = true ↔ low ≤ c ∧ c ≤ high := by
  simp only [CharSet.contains, Bool.and_eq_true, decide_eq_true_eq]
  exact Iff.rfl

theorem contains_union {left right : CharSet} :
    (CharSet.union left right).contains c = true ↔
      left.contains c = true ∨ right.contains c = true := by
  rw [CharSet.contains, Bool.or_eq_true]

theorem contains_none : CharSet.none.contains c = true ↔ False := by
  simp [CharSet.contains]

theorem contains_single {d : Char} : (CharSet.single d).contains c = true ↔ c = d := by
  rw [CharSet.single, contains_range]
  constructor
  · intro ⟨low, high⟩
    exact Char.le_antisymm high low
  · intro same
    rw [same]
    exact ⟨Char.le_refl d, Char.le_refl d⟩

theorem between_iff {low : Char} {high : Char} (next : high.toNat = low.toNat + 1) :
    low ≤ c ∧ c ≤ high ↔ c = low ∨ c = high := by
  simp only [Char.le_def, UInt32.le_iff_toNat_le, ← Char.toNat_inj]
  change low.toNat ≤ c.toNat ∧ c.toNat ≤ high.toNat ↔ _
  omega

end CharSet

/-! ## The pattern -/

namespace PathGate
open CharSet Regex

section Kinds
variable {c : Char}

theorem contains_digit : digit.contains c = true ↔ IsDigit c :=
  contains_range '0' '9'

theorem contains_lowerHex : lowerHex.contains c = true ↔ IsLowerHex c := by
  rw [lowerHex, contains_union, contains_digit]
  exact or_congr_right (contains_range 'a' 'f')

theorem contains_variant : variantDigit.contains c = true ↔ IsVariant c := by
  have numerals : (CharSet.range 0x38 0x39).contains c = true ↔ c = '8' ∨ c = '9' :=
    (contains_range '8' '9').trans (between_iff rfl)
  have letters : (CharSet.range 0x61 0x62).contains c = true ↔ c = 'a' ∨ c = 'b' :=
    (contains_range 'a' 'b').trans (between_iff rfl)
  rw [variantDigit, contains_union, numerals, letters, or_assoc]
  exact Iff.rfl

end Kinds

def hyphens : Language Char := singles (· = '-')

def identifierLanguages : List (Language Char) :=
  [singles IsLowerHex ^ 8, hyphens, singles IsLowerHex ^ 4, hyphens,
   singles (· = '4'), singles IsLowerHex ^ 3, hyphens,
   singles IsVariant, singles IsLowerHex ^ 3, hyphens, singles IsLowerHex ^ 12]

def numberLanguage : Language Char := singles IsDigit ^ 1 * (singles IsDigit)∗

theorem mem_group {texts others : Language Char} {text : List Char} :
    text ∈ texts * (hyphens * others) ↔
      ∃ group ∈ texts, ∃ rest ∈ others, text = group ++ '-' :: rest := by
  rw [Language.mem_mul]
  simp only [hyphens, mem_singles_mul]
  constructor
  · intro ⟨group, inside, tail, ⟨c, rest, cut, same, behind⟩, whole⟩
    exact ⟨group, inside, rest, behind, by rw [← whole, cut, same]⟩
  · intro ⟨group, inside, rest, behind, whole⟩
    exact ⟨group, inside, _, ⟨_, rest, rfl, rfl, behind⟩, whole.symm⟩

theorem mem_run {count : Nat} {text : List Char} :
    text ∈ singles IsLowerHex ^ count ↔ IsRun count text :=
  mem_singles_pow

theorem mem_identifier {text : List Char} :
    text ∈ identifierLanguages.prod ↔ IsIdentifier text := by
  simp only [isIdentifier_iff, identifierLanguages, List.prod_cons, List.prod_nil, mul_one,
    mem_group, mem_singles_mul, mem_run]
  constructor
  · intro ⟨first, hex1, _, ⟨second, hex2, _, ⟨_, _, cut3, rfl, third, hex3, _, ⟨variant, _,
      cut4, among, fourth, hex4, fifth, hex5, rest4⟩, rest3⟩, rest2⟩, rest1⟩
    refine ⟨first, second, third, variant, fourth, fifth, ?_, hex1, hex2, hex3, among, hex4,
      hex5⟩
    rw [rest1, rest2, cut3, rest3, cut4, rest4]
    rfl
  · intro ⟨first, second, third, variant, fourth, fifth, whole, hex1, hex2, hex3, among, hex4,
      hex5⟩
    exact ⟨first, hex1, _, ⟨second, hex2, _, ⟨'4', _, rfl, rfl, third, hex3, _,
      ⟨variant, _, rfl, among, fourth, hex4, fifth, hex5, rfl⟩, rfl⟩, rfl⟩, whole⟩

theorem mem_number {text : List Char} : text ∈ numberLanguage ↔ IsNumber text := by
  rw [numberLanguage, pow_one, mem_singles_mul]
  simp only [mem_singles_kstar]
  constructor
  · intro ⟨c, rest, whole, here, behind⟩
    rw [whole]
    exact ⟨List.cons_ne_nil _ _, List.forall_mem_cons.mpr ⟨here, behind⟩⟩
  · intro ⟨filled, digits⟩
    obtain ⟨c, rest, rfl⟩ := List.exists_cons_of_ne_nil filled
    obtain ⟨here, behind⟩ := List.forall_mem_cons.mp digits
    exact ⟨c, rest, rfl, here, behind⟩

/-- The parts of an identifier read its languages, however runs of digits and the variant are
written. -/
theorem reads_parts {hex : Nat → Regex} {variant : Regex}
    (runs : ∀ count, Reads (hex count) (singles IsLowerHex ^ count))
    (variants : Reads variant (singles IsVariant)) :
    List.Forall₂ Reads
      [hex 8, hyphen, hex 4, hyphen, .one (.single '4'), hex 3, hyphen, variant, hex 3, hyphen,
       hex 12] identifierLanguages := by
  have dash : Reads hyphen hyphens := reads_one fun _ => contains_single
  have version : Reads (.one (.single '4')) (singles (· = '4')) :=
    reads_one fun _ => contains_single
  exact .cons (runs 8) (.cons dash (.cons (runs 4) (.cons dash (.cons version (.cons (runs 3)
    (.cons dash (.cons variants (.cons (runs 3) (.cons dash (.cons (runs 12) .nil))))))))))

theorem reads_digits {set : CharSet} (same : ∀ c, set.contains c = true ↔ IsDigit c) :
    Reads (.repeated (.one set) 1 none) numberLanguage := by
  have digits : Reads (.one set) (singles IsDigit) := reads_one same
  exact (digits.times 1).sequence digits.many

/-- A pattern that reads whole identifiers and numbers. -/
def Standard (regex : Regex) : Prop :=
  ReadsWhole regex (identifierLanguages.prod + numberLanguage)

theorem Standard.isMatch {regex : Regex} (reads : Standard regex) (text : List Char) :
    regex.isMatch text = true ↔ IsNumber text ∨ (text.length = 36 ∧ IsIdentifier text) := by
  rw [isMatch_iff, reads.occurs, Language.mem_add, mem_identifier, mem_number, or_comm]
  apply or_congr_right
  constructor
  · intro identifier
    exact ⟨identifier.length, identifier⟩
  · exact And.right

theorem standard_pattern : Standard standard.pattern := by
  have identifiers : Reads identifier identifierLanguages.prod :=
    .sequences (reads_parts
      (fun count => (reads_one fun _ => contains_lowerHex).times count)
      (reads_one fun _ => contains_variant))
  have numbers : Reads number numberLanguage := reads_digits fun _ => contains_digit
  exact identifiers.whole.either numbers.whole

end PathGate

/-! ## The written pattern -/

namespace CharSet

/-- Sets that are written alike.  Properties are functions and are never compared. -/
def alike : CharSet → CharSet → Bool
  | .none, .none => true
  | .range low high, .range first last => low = first && high = last
  | .union left right, .union first second => left.alike first && right.alike second
  | _, _ => false

theorem eq_of_alike {set other : CharSet} (same : set.alike other = true) : set = other := by
  induction set, other using alike.induct with
  | case1 => rfl
  | case2 low high first last =>
    simp only [alike, Bool.and_eq_true, decide_eq_true_eq] at same
    rw [same.1, same.2]
  | case3 left right first second ihLeft ihRight =>
    obtain ⟨one, two⟩ := (Bool.and_eq_true _ _).mp same
    rw [ihLeft one, ihRight two]
  | case4 => simp [alike] at same

end CharSet

namespace Regex

/-- Patterns that are written alike, where they assert nothing but the start and the end. -/
def alike : Regex → Regex → Bool
  | .empty, .empty => true
  | .one set, .one other => set.alike other
  | .assertion .start, .assertion .start => true
  | .assertion .stop, .assertion .stop => true
  | .sequence first second, .sequence third fourth => first.alike third && second.alike fourth
  | .either left right, .either first second => left.alike first && right.alike second
  | .many body, .many other => body.alike other
  | .times count body, .times number other => count = number && body.alike other
  | .atMost count body, .atMost number other => count = number && body.alike other
  | _, _ => false

theorem eq_of_alike {regex other : Regex} (same : regex.alike other = true) : regex = other := by
  induction regex, other using alike.induct with
  | case1 => rfl
  | case2 set other => rw [CharSet.eq_of_alike same]
  | case3 => rfl
  | case4 => rfl
  | case5 first second third fourth ihFirst ihSecond =>
    obtain ⟨front, rest⟩ := (Bool.and_eq_true _ _).mp same
    rw [ihFirst front, ihSecond rest]
  | case6 left right first second ihLeft ihRight =>
    obtain ⟨front, rest⟩ := (Bool.and_eq_true _ _).mp same
    rw [ihLeft front, ihRight rest]
  | case7 body other ih => rw [ih same]
  | case8 count body number other ih =>
    simp only [alike, Bool.and_eq_true, decide_eq_true_eq] at same
    rw [same.1, ih same.2]
  | case9 count body number other ih =>
    simp only [alike, Bool.and_eq_true, decide_eq_true_eq] at same
    rw [same.1, ih same.2]
  | case10 => simp [alike] at same

end Regex

namespace PathGate
open CharSet Regex

def writtenPattern : String :=
  "^[0-9a-f]\x7b8\x7d-[0-9a-f]\x7b4\x7d-4[0-9a-f]\x7b3\x7d-" ++
    "[89ab][0-9a-f]\x7b3\x7d-[0-9a-f]\x7b12\x7d$|^[0-9]+$"

def bracketed (items : List CharSet) : CharSet := items.foldl .union .none

def bracketedDigit : CharSet := bracketed [.range 0x30 0x39]

def bracketedHex : CharSet := bracketed [.range 0x30 0x39, .range 0x61 0x66]

def bracketedVariant : CharSet := bracketed (['8', '9', 'a', 'b'].map .single)

def writtenIdentifier : List Regex :=
  let hex (count : Nat) : Regex := .repeated (.one bracketedHex) count (some count)
  [hex 8, hyphen, hex 4, hyphen, .one (.single '4'), hex 3, hyphen,
   .one bracketedVariant, hex 3, hyphen, hex 12]

def writtenNumber : List Regex := [.repeated (.one bracketedDigit) 1 none]

def written : Regex :=
  .either (.sequences (.assertion .start :: (writtenIdentifier ++ [.assertion .stop])))
    (.sequences (.assertion .start :: (writtenNumber ++ [.assertion .stop])))

theorem contains_bracketed {items : List CharSet} {c : Char} :
    (bracketed items).contains c = true ↔ ∃ item ∈ items, item.contains c = true := by
  have grown (set : CharSet) : (items.foldl .union set).contains c = true ↔
      set.contains c = true ∨ ∃ item ∈ items, item.contains c = true := by
    induction items generalizing set with
    | nil => simp
    | cons item items ih =>
      rw [List.foldl_cons, ih, contains_union, List.exists_mem_cons_iff, or_assoc]
  rw [bracketed, grown, contains_none, false_or]

theorem ofPattern_written : ofPattern writtenPattern = .ok written := by
  -- Patterns can hold functions and have no decidable equality, so a comparison is evaluated.
  have alike : ((ofPattern writtenPattern).toOption.any written.alike) = true := by
    decide +kernel
  cases read : ofPattern writtenPattern with
  | error flaw =>
    rw [read] at alike
    cases alike
  | ok regex =>
    rw [read] at alike
    rw [eq_of_alike alike]

theorem standard_written : Standard written := by
  have inHex {c : Char} : bracketedHex.contains c = true ↔ IsLowerHex c := by
    rw [← contains_lowerHex, lowerHex, contains_union, bracketedHex, contains_bracketed]
    simp [digit]
  have inDigit {c : Char} : bracketedDigit.contains c = true ↔ IsDigit c := by
    rw [← contains_digit, bracketedDigit, contains_bracketed]
    simp [digit]
  have inVariant {c : Char} : bracketedVariant.contains c = true ↔ IsVariant c := by
    rw [bracketedVariant, contains_bracketed]
    simp [contains_single, IsVariant]
  have identifiers : List.Forall₂ Reads writtenIdentifier identifierLanguages :=
    reads_parts (fun count => (reads_one fun _ => inHex).repeated count)
      (reads_one fun _ => inVariant)
  have numbers : List.Forall₂ Reads writtenNumber [numberLanguage] :=
    .cons (reads_digits fun _ => inDigit) .nil
  have whole := (readsWhole_sequences identifiers).either (readsWhole_sequences numbers)
  rwa [List.prod_singleton] at whole

/-! ## The first that does not pass -/

section Offending
variable (gate : PathGate)

/-- A parameter that does not pass, behind others that do. -/
structure FirstOffender (values : List (String × String)) (name value : String) : Prop where
  split : ∃ before behind, values = before ++ (name, value) :: behind ∧
    ∀ earlier ∈ before, gate.Admits earlier.2
  refused : ¬ gate.Admits value

theorem admits_or_offends (values : List (String × String)) :
    (∀ value ∈ values, gate.Admits value.2) ∨
      ∃ name value, gate.FirstOffender values name value := by
  induction values with
  | nil => exact .inl (List.forall_mem_nil _)
  | cons first values ih =>
    obtain ⟨name, value⟩ := first
    by_cases admitted : gate.Admits value
    · rcases ih with others | ⟨later, refusedValue, ⟨before, behind, same, earlier⟩, refused⟩
      · exact .inl (List.forall_mem_cons.mpr ⟨admitted, others⟩)
      · refine .inr ⟨later, refusedValue, ⟨(name, value) :: before, behind, ?_, ?_⟩, refused⟩
        · rw [same, List.cons_append]
        · exact List.forall_mem_cons.mpr ⟨admitted, earlier⟩
    · exact .inr ⟨name, value, ⟨[], values, rfl, List.forall_mem_nil _⟩, admitted⟩

variable {gate} {values : List (String × String)} {name value : String}

theorem FirstOffender.check_eq (first : gate.FirstOffender values name value) :
    gate.check values =
      if '/' ∈ value.toList then .notFound else .refused (.mismatch name value) := by
  obtain ⟨⟨before, behind, same, earlier⟩, refused⟩ := first
  rw [same]
  split
  · next slash => exact gate.check_slash earlier slash behind
  · next noSlash =>
    have mismatch : gate.accepts value = false := by
      rw [← Bool.not_eq_true]
      intro accepted
      exact refused ⟨noSlash, accepted⟩
    exact gate.check_mismatch earlier noSlash mismatch behind

theorem check_cases (gate : PathGate) (values : List (String × String)) :
    ((∀ value ∈ values, gate.Admits value.2) ∧ gate.check values = .pass) ∨
      ∃ name value, gate.FirstOffender values name value ∧ gate.check values =
        if '/' ∈ value.toList then .notFound else .refused (.mismatch name value) := by
  rcases gate.admits_or_offends values with admits | ⟨name, value, first⟩
  · exact .inl ⟨admits, gate.check_pass admits⟩
  · exact .inr ⟨name, value, first, first.check_eq⟩

theorem check_pass_iff :
    gate.check values = .pass ↔ ∀ value ∈ values, gate.Admits value.2 := by
  constructor
  · intro passed
    rcases gate.check_cases values with ⟨admits, -⟩ | ⟨name, value, first, answer⟩
    · exact admits
    · rw [passed] at answer
      split at answer
      · cases answer
      · cases answer
  · exact gate.check_pass

theorem check_notFound_iff :
    gate.check values = .notFound ↔
      ∃ name value, gate.FirstOffender values name value ∧ '/' ∈ value.toList := by
  constructor
  · intro missing
    rcases gate.check_cases values with ⟨-, answer⟩ | ⟨name, value, first, answer⟩
    · rw [missing] at answer
      cases answer
    · rw [missing] at answer
      split at answer
      · next slash => exact ⟨name, value, first, slash⟩
      · cases answer
  · intro ⟨name, value, first, slash⟩
    rw [first.check_eq, if_pos slash]

theorem check_refused_iff {reason : ParameterError} :
    gate.check values = .refused reason ↔
      ∃ name value, gate.FirstOffender values name value ∧ '/' ∉ value.toList ∧
        reason = .mismatch name value := by
  constructor
  · intro refused
    rcases gate.check_cases values with ⟨-, answer⟩ | ⟨name, value, first, answer⟩
    · rw [refused] at answer
      cases answer
    · rw [refused] at answer
      split at answer
      · cases answer
      · next noSlash => exact ⟨name, value, first, noSlash, Verdict.refused.inj answer⟩
  · intro ⟨name, value, first, noSlash, same⟩
    rw [first.check_eq, if_neg noSlash, same]

end Offending

/-- The standard gate accepts exactly numbers and identifiers of 36 characters, and so does the
gate of its written pattern.  A gate accepts a text if its pattern matches a stretch of it.  It
lets parameters pass if each of them passes, and otherwise the first that does not pass decides:
one with a slash is not found, and another is refused by its name and value. -/
theorem parameters_admitted :
    (∀ value : String, standard.accepts value = true ↔
      IsNumber value.toList ∨ (value.toList.length = 36 ∧ IsIdentifier value.toList)) ∧
    (∃ pattern, Regex.ofPattern writtenPattern = .ok pattern ∧
      ∀ value, (PathGate.mk pattern).accepts value = standard.accepts value) ∧
    ∀ gate : PathGate,
      (∀ value, gate.accepts value = true ↔ gate.pattern.Occurs value.toList) ∧
      ∀ values,
        (gate.check values = .pass ↔ ∀ value ∈ values, gate.Admits value.2) ∧
        (gate.check values = .notFound ↔
          ∃ name value, gate.FirstOffender values name value ∧ '/' ∈ value.toList) ∧
        ∀ reason, gate.check values = .refused reason ↔
          ∃ name value, gate.FirstOffender values name value ∧ '/' ∉ value.toList ∧
            reason = .mismatch name value := by
  refine ⟨?_, ⟨written, ofPattern_written, ?_⟩, ?_⟩
  · intro value
    exact standard_pattern.isMatch value.toList
  · intro value
    rw [Bool.eq_iff_iff]
    exact (standard_written.isMatch value.toList).trans (standard_pattern.isMatch value.toList).symm
  · intro gate
    refine ⟨fun value => isMatch_iff gate.pattern value.toList, ?_⟩
    intro values
    exact ⟨check_pass_iff, check_notFound_iff, fun reason => check_refused_iff⟩

/-- Behind an identifier a parameter with a slash is not found, whatever comes behind it, and a
number with a line end behind it is refused. -/
theorem parameters_admitted_identifier :
    IsIdentifier "0b7f0c8e-3c1d-4b7a-9f5e-2d6c8a1b3e4f".toList ∧
      standard.check [("id", "0b7f0c8e-3c1d-4b7a-9f5e-2d6c8a1b3e4f"), ("part", "1/2"),
        ("name", "x")] = .notFound ∧
      standard.check [("id", "0b7f0c8e-3c1d-4b7a-9f5e-2d6c8a1b3e4f"), ("part", "42\n")] =
        .refused (.mismatch "part" "42\n") := by
  obtain ⟨language, -, order⟩ := parameters_admitted
  let groups := ["0b7f0c8e", "3c1d", "4b7a", "9f5e", "2d6c8a1b3e4f"].map String.toList
  have digits : ∀ group ∈ groups, ∀ c ∈ group, IsLowerHex c := by
    have all : (groups.all fun group => group.all fun c => decide (IsLowerHex c)) = true := by
      decide
    simpa only [List.all_eq_true, decide_eq_true_eq] using all
  have identifier : IsIdentifier "0b7f0c8e-3c1d-4b7a-9f5e-2d6c8a1b3e4f".toList :=
    ⟨groups, ⟨rfl, digits, ⟨_, rfl⟩, '9', _, rfl, .inr (.inl rfl)⟩, by decide⟩
  have first : standard.Admits "0b7f0c8e-3c1d-4b7a-9f5e-2d6c8a1b3e4f" :=
    ⟨by decide, (language _).mpr (.inr ⟨identifier.length, identifier⟩)⟩
  have earlier : ∀ value ∈ [("id", "0b7f0c8e-3c1d-4b7a-9f5e-2d6c8a1b3e4f")],
      standard.Admits value.2 := by
    rw [List.forall_mem_singleton]
    exact first
  refine ⟨identifier, ?_, ?_⟩
  · refine ((order standard).2 _).2.1.mpr ⟨"part", "1/2", ⟨⟨_, _, rfl, earlier⟩, ?_⟩, by decide⟩
    intro admitted
    exact admitted.noSlash (by decide)
  · refine (((order standard).2 _).2.2 _).mpr
      ⟨"part", "42\n", ⟨⟨_, [], rfl, earlier⟩, ?_⟩, by decide, rfl⟩
    intro admitted
    rcases (language _).mp admitted.accepted with number | ⟨size, -⟩
    · exact absurd (number.digits '\n' (by decide)) (by decide)
    · exact absurd size (by decide)

end PathGate

end FaultMesh
