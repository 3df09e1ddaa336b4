import Mathlib.Computability.Language
import FaultMesh.Proofs.Regex

/-!
# Languages of patterns

A pattern that does not look around reads a language: what it matches does not depend on what
stands before and behind.  A pattern between the start and the end of the text reads whole
texts, and it is found in a text exactly if the text is in its language.
-/

set_option autoImplicit false

open scoped Computability

namespace FaultMesh.Regex

def singles (kind : Char → Prop) : Language Char := {text | ∃ c, text = [c] ∧ kind c}

/-- A pattern matches exactly the texts of a language, whatever stands around them. -/
def Reads (regex : Regex) (texts : Language Char) : Prop :=
  ∀ before found after, regex.Matches before found after ↔ found ∈ texts

/-- A pattern matches exactly the texts of a language, and only where nothing stands around
them. -/
def ReadsWhole (regex : Regex) (texts : Language Char) : Prop :=
  ∀ before found after,
    regex.Matches before found after ↔ before = [] ∧ after = [] ∧ found ∈ texts

section Words
variable {kind : Char → Prop} {text : List Char}

theorem mem_singles : text ∈ singles kind ↔ ∃ c, text = [c] ∧ kind c := Iff.rfl

theorem mem_singles_mul {texts : Language Char} :
    text ∈ singles kind * texts ↔ ∃ c rest, text = c :: rest ∧ kind c ∧ rest ∈ texts := by
  rw [Language.mem_mul]
  constructor
  · intro ⟨head, ⟨c, same, here⟩, rest, behind, whole⟩
    exact ⟨c, rest, by rw [← whole, same]; rfl, here, behind⟩
  · intro ⟨c, rest, whole, here, behind⟩
    exact ⟨[c], ⟨c, rfl, here⟩, rest, behind, whole.symm⟩

theorem mem_singles_pow {count : Nat} :
    text ∈ singles kind ^ count ↔ text.length = count ∧ ∀ c ∈ text, kind c := by
  induction count generalizing text with
  | zero =>
    rw [pow_zero, Language.mem_one, List.length_eq_zero_iff]
    constructor
    · intro nothing
      exact ⟨nothing, nothing ▸ List.forall_mem_nil _⟩
    · exact And.left
  | succ count ih =>
    rw [pow_succ', mem_singles_mul]
    constructor
    · intro ⟨c, rest, whole, here, behind⟩
      obtain ⟨size, others⟩ := ih.mp behind
      rw [whole, List.length_cons, size]
      exact ⟨rfl, List.forall_mem_cons.mpr ⟨here, others⟩⟩
    · intro ⟨size, all⟩
      obtain ⟨c, rest, rfl⟩ := List.exists_cons_of_length_eq_add_one size
      obtain ⟨here, others⟩ := List.forall_mem_cons.mp all
      exact ⟨c, rest, rfl, here, ih.mpr ⟨Nat.succ.inj size, others⟩⟩

theorem mem_singles_kstar : text ∈ (singles kind)∗ ↔ ∀ c ∈ text, kind c := by
  rw [Language.kstar_eq_iSup_pow, Language.mem_iSup]
  simp only [mem_singles_pow, exists_and_right, exists_eq', true_and]

end Words

/-! ## What patterns read -/

theorem sequences_cons (part : Regex) (parts : List Regex) :
    sequences (part :: parts) = .sequence part (sequences parts) := rfl

section Reading
variable {first second body : Regex} {texts others : Language Char}

theorem reads_empty : Reads .empty 1 := by
  intro before found after
  rw [matches_empty, Language.mem_one]

theorem reads_one {set : CharSet} {kind : Char → Prop}
    (same : ∀ c, set.contains c = true ↔ kind c) : Reads (.one set) (singles kind) := by
  intro before found after
  rw [matches_one, mem_singles]
  simp only [same]

theorem Reads.sequence (start : Reads first texts) (rest : Reads second others) :
    Reads (.sequence first second) (texts * others) := by
  intro before found after
  rw [matches_sequence, Language.mem_mul]
  constructor
  · intro ⟨head, tail, whole, front, behind⟩
    exact ⟨head, (start _ _ _).mp front, tail, (rest _ _ _).mp behind, whole.symm⟩
  · intro ⟨head, front, tail, behind, whole⟩
    exact ⟨head, tail, whole.symm, (start _ _ _).mpr front, (rest _ _ _).mpr behind⟩

theorem Reads.times (reads : Reads body texts) (count : Nat) :
    Reads (.times count body) (texts ^ count) := by
  induction count with
  | zero =>
    intro before found after
    rw [matches_times_zero, pow_zero, Language.mem_one]
  | succ count ih =>
    intro before found after
    rw [matches_times_succ, pow_succ']
    exact reads.sequence ih before found after

theorem reads_atMost_zero : Reads (.atMost 0 body) 1 := by
  intro before found after
  rw [matches_atMost_zero, Language.mem_one]

theorem Reads.many (reads : Reads body texts) : Reads (.many body) texts∗ := by
  intro before found after
  constructor
  · intro matched
    generalize unrolled : Regex.many body = regex at matched
    induction matched with
    | manyNone => exact Language.nil_mem_kstar texts
    | manyMore front _ _ ih =>
      cases unrolled
      rw [← Language.one_add_self_mul_kstar_eq_kstar]
      exact .inr (Language.append_mem_mul ((reads _ _ _).mp front) (ih rfl))
    | _ => cases unrolled
  · intro inside
    obtain ⟨pieces, rfl, all⟩ := Language.mem_kstar.mp inside
    induction pieces generalizing before with
    | nil => exact .manyNone
    | cons piece pieces ih =>
      obtain ⟨first, others⟩ := List.forall_mem_cons.mp all
      exact .manyMore ((reads _ _ _).mpr first) (ih _ others (Language.join_mem_kstar others))

theorem Reads.repeated (reads : Reads body texts) (count : Nat) :
    Reads (.repeated body count (some count)) (texts ^ count) := by
  have whole : Reads (.repeated body count (some count)) (texts ^ count * 1) := by
    rw [Regex.repeated, Nat.sub_self]
    exact (reads.times count).sequence reads_atMost_zero
  rwa [mul_one] at whole

theorem Reads.sequences {parts : List Regex} {languages : List (Language Char)}
    (reads : List.Forall₂ Reads parts languages) : Reads (sequences parts) languages.prod := by
  induction reads with
  | nil => exact reads_empty
  | cons start _ ih =>
    rw [List.prod_cons]
    exact start.sequence ih

/-! ## Whole texts -/

theorem matches_assertion_start {before found after : List Char} :
    Matches (.assertion .start) before found after ↔ found = [] ∧ before = [] := by
  rw [matches_assertion, Assertion.holdsAt, Option.isNone_iff_eq_none, List.getLast?_eq_none_iff]

theorem matches_assertion_stop {before found after : List Char} :
    Matches (.assertion .stop) before found after ↔ found = [] ∧ after = [] := by
  rw [matches_assertion, Assertion.holdsAt, Option.isNone_iff_eq_none, List.head?_eq_none_iff]

theorem matches_start {before found after : List Char} :
    Matches (.sequence (.assertion .start) body) before found after ↔
      before = [] ∧ Matches body [] found after := by
  simp only [matches_sequence, matches_assertion_start]
  constructor
  · intro ⟨head, tail, whole, ⟨nothing, start⟩, rest⟩
    subst whole nothing start
    exact ⟨rfl, rest⟩
  · intro ⟨start, rest⟩
    subst start
    exact ⟨[], found, rfl, ⟨rfl, rfl⟩, rest⟩

theorem matches_stop {before found after : List Char} :
    Matches (.sequence body (.assertion .stop)) before found after ↔
      after = [] ∧ Matches body before found [] := by
  simp only [matches_sequence, matches_assertion_stop]
  constructor
  · intro ⟨head, tail, whole, front, nothing, stop⟩
    subst whole nothing stop
    exact ⟨rfl, by simpa using front⟩
  · intro ⟨stop, front⟩
    subst stop
    exact ⟨found, [], by rw [List.append_nil], front, rfl, rfl⟩

theorem Reads.whole (reads : Reads body texts) :
    ReadsWhole (.sequence (.assertion .start) (.sequence body (.assertion .stop))) texts := by
  intro before found after
  rw [matches_start, matches_stop, reads]

theorem matches_sequences_stop {parts : List Regex} {before found after : List Char} :
    Matches (sequences (parts ++ [.assertion .stop])) before found after ↔
      after = [] ∧ Matches (sequences parts) before found [] := by
  induction parts generalizing before found with
  | nil =>
    rw [List.nil_append, sequences_cons]
    simp only [matches_sequence, matches_assertion_stop, sequences, List.foldr_nil, matches_empty]
    constructor
    · intro ⟨head, tail, whole, ⟨nothing, stop⟩, rest⟩
      subst whole nothing rest
      exact ⟨stop, rfl⟩
    · intro ⟨stop, nothing⟩
      subst stop nothing
      exact ⟨[], [], rfl, ⟨rfl, rfl⟩, rfl⟩
  | cons part parts ih =>
    rw [List.cons_append, sequences_cons, sequences_cons]
    simp only [matches_sequence, ih]
    constructor
    · intro ⟨head, tail, whole, front, stop, rest⟩
      subst stop
      exact ⟨rfl, head, tail, whole, front, rest⟩
    · intro ⟨stop, head, tail, whole, front, rest⟩
      subst stop
      exact ⟨head, tail, whole, front, rfl, rest⟩

theorem readsWhole_sequences {parts : List Regex} {languages : List (Language Char)}
    (reads : List.Forall₂ Reads parts languages) :
    ReadsWhole (sequences (.assertion .start :: (parts ++ [.assertion .stop])))
      languages.prod := by
  intro before found after
  rw [sequences_cons, matches_start, matches_sequences_stop, Reads.sequences reads]

theorem ReadsWhole.either (left : ReadsWhole first texts) (right : ReadsWhole second others) :
    ReadsWhole (.either first second) (texts + others) := by
  intro before found after
  rw [matches_either, left, right, Language.mem_add, ← and_or_left, ← and_or_left]

theorem ReadsWhole.occurs (reads : ReadsWhole body texts) (text : List Char) :
    Occurs body text ↔ text ∈ texts := by
  constructor
  · intro ⟨before, found, after, whole, matched⟩
    obtain ⟨start, stop, inside⟩ := (reads _ _ _).mp matched
    rw [whole, start, stop, List.nil_append, List.append_nil]
    exact inside
  · intro inside
    exact ⟨[], text, [], by simp, (reads _ _ _).mpr ⟨rfl, rfl, inside⟩⟩

end Reading

end FaultMesh.Regex
