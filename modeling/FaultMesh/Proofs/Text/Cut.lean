import FaultMesh.Text.Cut

/-!
# Pieces of text

A text that was put together from pieces comes apart into the same pieces, as long as no
piece holds the separator.  What is taken before a separator ends at the first one, or with
the text.
-/

set_option autoImplicit false

namespace FaultMesh.Text

variable {separator : Char}

theorem before_of_not_mem {text : List Char} (absent : separator ∉ text) :
    before separator text = text := by
  induction text with
  | nil => rfl
  | cons c text ih =>
    rw [List.mem_cons, not_or] at absent
    simpa [before, Ne.symm absent.1] using ih absent.2

theorem before_append {text : List Char} (absent : separator ∉ text) (after : List Char) :
    before separator (text ++ separator :: after) = text := by
  have others : ∀ c ∈ text, decide (c ≠ separator) = true := by
    intro c inside
    exact decide_eq_true fun same => absent (same ▸ inside)
  rw [before, List.takeWhile_append_of_pos others, List.takeWhile_cons_of_neg (by simp),
    List.append_nil]

/-- What stands in a text before the first occurrence of a mark. -/
structure Upto (mark : Char) (text front : List Char) : Prop where
  absent : mark ∉ front
  cut : text = front ∨ ∃ behind, text = front ++ mark :: behind

theorem not_mem_before (text : List Char) : separator ∉ before separator text := by
  intro inside
  have other := List.all_eq_true.mp List.all_takeWhile separator inside
  exact of_decide_eq_true other rfl

theorem mem_of_mem_before {text : List Char} {c : Char} (inside : c ∈ before separator text) :
    c ∈ text :=
  (List.takeWhile_prefix _).subset inside

theorem upto_iff {text front : List Char} :
    Upto separator text front ↔ front = before separator text := by
  constructor
  · intro ⟨absent, cut⟩
    rcases cut with same | ⟨behind, same⟩
    · rw [same, before_of_not_mem absent]
    · rw [same, before_append absent]
  · intro same
    rw [same]
    refine ⟨not_mem_before text, ?_⟩
    by_cases inside : separator ∈ text
    · obtain ⟨first, rest, rfl, absent⟩ := List.eq_append_cons_of_mem inside
      rw [before_append absent]
      exact .inr ⟨rest, rfl⟩
    · exact .inl (before_of_not_mem inside).symm

theorem mem_intercalate {pieces : List (List Char)} {c : Char}
    (inside : c ∈ List.intercalate [separator] pieces) :
    c = separator ∨ ∃ piece ∈ pieces, c ∈ piece := by
  induction pieces with
  | nil => cases inside
  | cons piece pieces ih =>
    cases pieces with
    | nil =>
      rw [List.intercalate_singleton] at inside
      exact .inr ⟨piece, List.mem_cons_self, inside⟩
    | cons next others =>
      rw [List.intercalate_cons_cons, List.append_assoc] at inside
      rcases List.mem_append.mp inside with here | behind
      · exact .inr ⟨piece, List.mem_cons_self, here⟩
      rcases List.mem_cons.mp behind with same | there
      · exact .inl same
      · obtain same | ⟨piece, member, there⟩ := ih there
        · exact .inl same
        · exact .inr ⟨piece, List.mem_cons_of_mem _ member, there⟩

theorem flatMap_eq_intercalate (pieces : List (List Char)) :
    pieces.flatMap (separator :: ·) = List.intercalate [separator] ([] :: pieces) := by
  induction pieces with
  | nil => simp
  | cons piece pieces ih =>
    cases pieces with
    | nil => simp
    | cons next others =>
      rw [List.flatMap_cons, ih]
      simp

theorem mem_splitOnP {cuts : Char → Bool} {text piece : List Char}
    (member : piece ∈ text.splitOnP cuts) : ∀ c ∈ piece, c ∈ text ∧ cuts c = false := by
  induction text generalizing piece with
  | nil =>
    rw [List.splitOnP_nil, List.mem_singleton] at member
    subst member
    intro c none
    cases none
  | cons first text ih =>
    obtain ⟨head, others, pieces⟩ := List.exists_cons_of_ne_nil (List.splitOnP_ne_nil cuts text)
    have earlier : ∀ piece ∈ head :: others, ∀ c ∈ piece, c ∈ first :: text ∧ cuts c = false := by
      intro piece member c inside
      obtain ⟨there, other⟩ := ih (pieces ▸ member) c inside
      exact ⟨List.mem_cons_of_mem _ there, other⟩
    rw [List.splitOnP_cons_eq_if_modifyHead, pieces, List.modifyHead_cons] at member
    intro c inside
    split at member
    · rcases List.mem_cons.mp member with rfl | member
      · cases inside
      · exact earlier piece member c inside
    next other =>
      rcases List.mem_cons.mp member with rfl | member
      · rcases List.mem_cons.mp inside with rfl | inside
        · exact ⟨List.mem_cons_self, Bool.not_eq_true _ ▸ other⟩
        · exact earlier head List.mem_cons_self c inside
      · exact earlier piece (List.mem_cons_of_mem _ member) c inside

theorem mem_splitOn {text piece : List Char} (member : piece ∈ text.splitOn separator) :
    ∀ c ∈ piece, c ∈ text ∧ c ≠ separator := by
  intro c inside
  obtain ⟨there, other⟩ := mem_splitOnP member c inside
  exact ⟨there, by simpa using other⟩

theorem mem_splitOn_dropWhile {text piece : List Char}
    (member : piece ∈ List.splitOn separator (text.dropWhile (· = separator))) :
    piece ∈ List.splitOn separator text := by
  induction text with
  | nil => exact member
  | cons c text ih =>
    by_cases same : c = separator
    · subst same
      rw [List.dropWhile_cons_of_pos (by simp)] at member
      rw [← List.nil_append (c :: text),
        List.splitOn_append_cons_self_of_not_mem List.not_mem_nil]
      exact List.mem_cons_of_mem _ (ih member)
    · rwa [List.dropWhile_cons_of_neg (by simpa using same)] at member

theorem mem_splitOn_dropEnd {text piece : List Char}
    (member : piece ∈ List.splitOn separator (text.reverse.dropWhile (· = separator)).reverse) :
    piece ∈ List.splitOn separator text := by
  have whole : text = (text.reverse.dropWhile (· = separator)).reverse ++
      (text.reverse.takeWhile (· = separator)).reverse := by
    rw [← List.reverse_append, List.takeWhile_append_dropWhile, List.reverse_reverse]
  rw [whole]
  cases ends : (text.reverse.takeWhile (· = separator)).reverse with
  | nil => rwa [List.append_nil]
  | cons c others =>
    have inside : c ∈ text.reverse.takeWhile (· = separator) := by
      rw [← List.mem_reverse, ends]
      exact List.mem_cons_self
    have same : c = separator := by simpa using List.all_eq_true.mp List.all_takeWhile c inside
    rw [same, List.splitOn_append_cons_self]
    exact List.mem_append_left _ member

theorem splitOnce?_append {before : List Char} (absent : separator ∉ before)
    (after : List Char) :
    splitOnce? separator (before ++ separator :: after) = some (before, after) := by
  induction before with
  | nil => simp [splitOnce?]
  | cons c before ih =>
    rw [List.mem_cons, not_or] at absent
    rw [List.cons_append, splitOnce?, if_neg (Ne.symm absent.1), ih absent.2]
    rfl

theorem splitOnce?_of_not_mem {text : List Char} (absent : separator ∉ text) :
    splitOnce? separator text = none := by
  induction text with
  | nil => rfl
  | cons c text ih =>
    rw [List.mem_cons, not_or] at absent
    rw [splitOnce?, if_neg (Ne.symm absent.1), ih absent.2]
    rfl

theorem splitOnce?_eq_some_iff {text before after : List Char} :
    splitOnce? separator text = some (before, after) ↔
      separator ∉ before ∧ text = before ++ separator :: after := by
  constructor
  · intro cut
    by_cases inside : separator ∈ text
    · obtain ⟨first, rest, rfl, absent⟩ := List.eq_append_cons_of_mem inside
      rw [splitOnce?_append absent] at cut
      obtain ⟨rfl, rfl⟩ := Prod.mk.inj (Option.some.inj cut)
      exact ⟨absent, rfl⟩
    · rw [splitOnce?_of_not_mem inside] at cut
      cases cut
  · rintro ⟨absent, rfl⟩
    exact splitOnce?_append absent after

end FaultMesh.Text
