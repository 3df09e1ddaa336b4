import FaultMesh.Proofs.Config.Expansion

/-!
# Text without placeholders

A text that holds no placeholder outside of its comments stays as it is, whatever the environment
is, apart from its line ends: a carriage return that stands before a line feed is lost, in
comments too.
-/

set_option autoImplicit false

namespace FaultMesh.Expansion

/-- A placeholder begins somewhere in a line. -/
def Contains (line : List Char) : Prop := ∃ behind, behind <:+ line ∧ Begins behind

/-- No line of a text contains a placeholder, the comments apart. -/
def Bare (text : List Char) : Prop :=
  ∀ lines, Text.LinesOf text lines → ∀ line ∈ lines, ¬ IsComment line → ¬ Contains line

section Bare
variable {line text : List Char}

theorem contains_cons {c : Char} :
    Contains (c :: line) ↔ Begins (c :: line) ∨ Contains line := by
  constructor
  · rintro ⟨behind, inside, begins⟩
    rcases List.suffix_cons_iff.mp inside with rfl | inside
    · exact .inl begins
    · exact .inr ⟨behind, inside, begins⟩
  · rintro (begins | ⟨behind, inside, begins⟩)
    · exact ⟨_, List.suffix_refl _, begins⟩
    · exact ⟨behind, inside.trans (List.suffix_cons c line), begins⟩

theorem not_contains_nil : ¬ Contains [] := by
  rintro ⟨behind, inside, begins⟩
  obtain rfl := List.suffix_nil.mp inside
  exact not_begins_iff.mpr rfl begins

/-- A line contains no placeholder exactly when each of its characters is a piece of its own. -/
theorem pieces_eq_literals_iff : pieces line = line.map .literal ↔ ¬ Contains line := by
  induction line with
  | nil => simp [pieces, not_contains_nil]
  | cons c line ih =>
    rw [contains_cons, not_or, ← ih, not_begins_iff]
    cases taken : takePlaceholder? (c :: line) with
    | none => simp [pieces_of_none taken]
    | some found =>
      obtain ⟨placeholder, rest⟩ := found
      simp [pieces_of_some taken]

theorem bare_iff : Bare text ↔ ∀ line ∈ Text.lines text, linePieces line = line.map .literal := by
  have each (line : List Char) :
      (¬ IsComment line → ¬ Contains line) ↔ linePieces line = line.map .literal := by
    rw [linePieces, ← pieces_eq_literals_iff, ← isComment_iff]
    split
    next comment => exact ⟨fun _ => rfl, fun _ other => absurd comment other⟩
    next other => exact ⟨fun kept => kept other, fun kept _ => kept⟩
  simp only [Bare, Text.linesOf_iff, forall_eq', each]

theorem filled_literals (environment : Environment) (line : List Char) :
    Filled environment (line.map .literal) line := by
  induction line with
  | nil => exact .nil
  | cons c line ih => exact .literal ih

theorem expandLines_of_literals (environment : Environment) {lines : List (List Char)}
    (kept : ∀ line ∈ lines, linePieces line = line.map .literal) :
    expandLines environment lines = .ok lines := by
  rw [expandLines_eq_ok, List.map_congr_left kept, List.forall₂_map_left_iff, List.forall₂_same]
  exact fun line _ => filled_literals environment line

/-- Where nothing is put in, what is left of expansion is that lines are cut and joined. -/
theorem expand_of_bare (environment : Environment) {text : String} (bare : Bare text.toList) :
    expand environment text = .ok (String.ofList (Text.bareFeeds text.toList)) := by
  rw [expand, expandChars, expandLines_of_literals environment (bare_iff.mp bare),
    ← Text.intercalate_lines]
  rfl

end Bare

/-- A text without placeholders outside of its comments expands to itself with its line ends as
bare line feeds, in every environment.  So every character of it is kept if and only if no
carriage return stands before a line feed. -/
theorem expand_untouched (environment : Environment) (text : String) (bare : Bare text.toList) :
    expand environment text = .ok (String.ofList (Text.bareFeeds text.toList)) ∧
      (expand environment text = .ok text ↔ ¬ ['\r', '\n'] <:+: text.toList) := by
  have expanded := expand_of_bare environment bare
  refine ⟨expanded, ?_⟩
  rw [expanded, Except.ok.injEq, ← Text.bareFeeds_eq_self_iff, ← String.toList_inj,
    String.toList_ofList]

/-- A comment with a placeholder, empty lines, a carriage return that ends no line, and a last
line without an end. -/
theorem expand_untouched_comment :
    let text := " # \x7b\x7b env.A \x7d\x7d\n\n\na = 1\r \x7b\x7b env.A"
    Bare text.toList ∧ expand ⟨[]⟩ text = .ok text := by
  intro text
  have bare : Bare text.toList := bare_iff.mpr (by decide +kernel)
  exact ⟨bare, (expand_untouched ⟨[]⟩ text bare).2.mpr (by decide +kernel)⟩

/-- The carriage return at the end of a line is lost, even in a comment. -/
theorem return_lost :
    ¬ ∀ (environment : Environment) (text : String), Bare text.toList →
      expand environment text = .ok text := by
  intro all
  have bare : Bare "# note\r\nkey = 1\r\n".toList := bare_iff.mpr (by decide +kernel)
  have kept := (expand_untouched ⟨[]⟩ _ bare).2.mp (all ⟨[]⟩ _ bare)
  exact kept (by decide +kernel)

end FaultMesh.Expansion
