import FaultMesh.Text.Blank

/-!
# Trimmed text

Trimming takes off the blanks at both ends, and nothing else: a text between blanks that
neither begins nor ends in one is what is left of them.
-/

set_option autoImplicit false

namespace FaultMesh.Text

variable {before text after : List Char}

theorem not_isBlank_of_visible {c : Char} (above : 0x20 < c.toNat) (below : c.toNat < 0x7F) :
    isBlank c = false := by
  simp only [isBlank, Bool.or_eq_false_iff, Bool.and_eq_false_iff, decide_eq_false_iff_not,
    beq_eq_false_iff_ne]
  omega

theorem not_isBlank_of_isAlphanumeric {c : Char} (plain : isAlphanumeric c = true) :
    isBlank c = false := by
  have within {first last : Char} (range : first ≤ c ∧ c ≤ last) (above : 0x20 < first.toNat)
      (below : last.toNat < 0x7F) : isBlank c = false :=
    not_isBlank_of_visible (Nat.lt_of_lt_of_le above range.1) (Nat.lt_of_le_of_lt range.2 below)
  simp only [isAlphanumeric, isLetter, isDigit, Bool.or_eq_true, Bool.and_eq_true,
    decide_eq_true_eq] at plain
  rcases plain with (lower | upper) | digit
  · exact within lower (by decide) (by decide)
  · exact within upper (by decide) (by decide)
  · exact within digit (by decide) (by decide)

theorem not_isBlank_of_isDigit {c : Char} (digit : isDigit c = true) : isBlank c = false :=
  not_isBlank_of_isAlphanumeric (by rw [isAlphanumeric, digit, Bool.or_true])

theorem trimStart_append (blank : ∀ c ∈ before, isBlank c = true) (text : List Char) :
    trimStart (before ++ text) = trimStart text :=
  List.dropWhile_append_of_pos blank

theorem trimEnd_append (blank : ∀ c ∈ after, isBlank c = true) (text : List Char) :
    trimEnd (text ++ after) = trimEnd text := by
  rw [trimEnd, List.reverse_append, List.dropWhile_append_of_pos, trimEnd]
  exact fun c inside => blank c (List.mem_reverse.mp inside)

theorem trimStart_of_head (first : ∀ c ∈ text.head?, isBlank c = false) :
    trimStart text = text := by
  cases text with
  | nil => rfl
  | cons c text => exact List.dropWhile_cons_of_neg (by simp [first c rfl])

theorem trimEnd_of_getLast (last : ∀ c ∈ text.getLast?, isBlank c = false) :
    trimEnd text = text := by
  have kept : trimStart text.reverse = text.reverse := trimStart_of_head (by simpa using last)
  rw [trimStart] at kept
  rw [trimEnd, kept, List.reverse_reverse]

theorem trim_append (blankBefore : ∀ c ∈ before, isBlank c = true)
    (blankAfter : ∀ c ∈ after, isBlank c = true)
    (first : ∀ c ∈ text.head?, isBlank c = false)
    (last : ∀ c ∈ text.getLast?, isBlank c = false) :
    trim (before ++ (text ++ after)) = text := by
  rw [trim, trimStart_append blankBefore]
  cases text with
  | nil =>
    have nothing := trimStart_append blankAfter []
    rw [List.append_nil] at nothing
    rw [List.nil_append, nothing]
    rfl
  | cons c text =>
    rw [trimStart_of_head (by simpa using first), trimEnd_append blankAfter,
      trimEnd_of_getLast last]

theorem trimEnd_append_blanks (text : List Char) :
    trimEnd text ++ (text.reverse.takeWhile isBlank).reverse = text := by
  rw [trimEnd, ← List.reverse_append, List.takeWhile_append_dropWhile, List.reverse_reverse]

theorem exists_trim (text : List Char) :
    ∃ before after, (∀ c ∈ before, isBlank c = true) ∧ (∀ c ∈ after, isBlank c = true) ∧
      text = before ++ (trim text ++ after) := by
  refine ⟨text.takeWhile isBlank, ((trimStart text).reverse.takeWhile isBlank).reverse, ?_, ?_, ?_⟩
  · exact List.all_eq_true.mp List.all_takeWhile
  · intro c inside
    exact List.all_eq_true.mp List.all_takeWhile c (List.mem_reverse.mp inside)
  · rw [trim, trimEnd_append_blanks, trimStart, List.takeWhile_append_dropWhile]

theorem mem_of_mem_trim {c : Char} (inside : c ∈ trim text) : c ∈ text := by
  obtain ⟨left, right, -, -, whole⟩ := exists_trim text
  rw [whole]
  exact List.mem_append_right _ (List.mem_append_left _ inside)

theorem head?_trimStart (text : List Char) : ∀ c ∈ (trimStart text).head?, isBlank c = false := by
  intro c first
  have kept := List.head?_dropWhile_not isBlank text
  rw [show (text.dropWhile isBlank).head? = some c from first] at kept
  exact kept

theorem getLast?_trimEnd (text : List Char) :
    ∀ c ∈ (trimEnd text).getLast?, isBlank c = false := by
  intro c last
  rw [trimEnd, List.getLast?_reverse] at last
  exact head?_trimStart text.reverse c last

theorem head?_trim (text : List Char) : ∀ c ∈ (trim text).head?, isBlank c = false := by
  intro c first
  apply head?_trimStart text c
  have found : (trimEnd (trimStart text)).head? = some c := first
  rw [← trimEnd_append_blanks (trimStart text), List.head?_append, found]
  rfl

/-- What is left of a text without the blanks at its ends. -/
structure Trimmed (text inner : List Char) : Prop where
  around : ∃ left right, (∀ c ∈ left, isBlank c = true) ∧ (∀ c ∈ right, isBlank c = true) ∧
    text = left ++ (inner ++ right)
  first : ∀ c ∈ inner.head?, isBlank c = false
  last : ∀ c ∈ inner.getLast?, isBlank c = false

theorem trimmed_iff {inner : List Char} : Trimmed text inner ↔ inner = trim text := by
  constructor
  · intro ⟨⟨left, right, blankLeft, blankRight, whole⟩, first, last⟩
    rw [whole, trim_append blankLeft blankRight first last]
  · intro same
    rw [same]
    exact ⟨exists_trim text, head?_trim text, getLast?_trimEnd (trimStart text)⟩

theorem trim_trim (text : List Char) : trim (trim text) = trim text := by
  have alone : Trimmed (trim text) (trim text) := by
    refine ⟨⟨[], [], List.forall_mem_nil _, List.forall_mem_nil _, ?_⟩, head?_trim text,
      getLast?_trimEnd (trimStart text)⟩
    rw [List.nil_append, List.append_nil]
  exact (trimmed_iff.mp alone).symm

end FaultMesh.Text
