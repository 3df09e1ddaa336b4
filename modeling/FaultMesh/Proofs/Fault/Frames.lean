import FaultMesh.Fault.StackTrace
import FaultMesh.Proofs.Decimal.Integers
import FaultMesh.Proofs.Text.Blank
import FaultMesh.Proofs.Text.Cut
import FaultMesh.Proofs.Text.Lines

/-!
# Frames of a stack

The lines of a captured stack fall into frames in one way only.  What is kept of them are the
frames in the middle, each one with all of its lines.
-/

set_option autoImplicit false

namespace FaultMesh.StackTrace

open FaultMesh.Text (LinesOf isBlank)

/-- The line that a frame begins with: an index in decimal digits and a colon, with blanks before
and anything behind. -/
def IsHeader (line : List Char) : Prop :=
  ∃ blanks index symbol, line = blanks ++ (index ++ ':' :: symbol) ∧
    (∀ c ∈ blanks, isBlank c = true) ∧ Decimal.IsRow index

theorem isFrameHeader_iff {line : List Char} : isFrameHeader line = true ↔ IsHeader line := by
  constructor
  · intro header
    unfold isFrameHeader at header
    split at header
    next index symbol cut =>
      rw [Bool.and_eq_true, Bool.not_eq_true', List.isEmpty_eq_false_iff,
        List.all_eq_true] at header
      obtain ⟨-, trimmed⟩ := Text.splitOnce?_eq_some_iff.mp cut
      refine ⟨line.takeWhile isBlank, index, symbol, ?_, ?_, header.1, header.2⟩
      · rw [← trimmed, Text.trimStart, List.takeWhile_append_dropWhile]
      · exact List.all_eq_true.mp List.all_takeWhile
    next => cases header
  · rintro ⟨blanks, index, symbol, rfl, blank, row⟩
    have colon : ':' ∉ index := fun inside => absurd (row.digit ':' inside) (by decide)
    have first : ∀ c ∈ (index ++ ':' :: symbol).head?, isBlank c = false := by
      obtain ⟨c, digits, rfl⟩ := List.exists_cons_of_ne_nil row.nonempty
      intro d here
      obtain rfl := Option.some.inj here
      exact Text.not_isBlank_of_isDigit (row.digit c List.mem_cons_self)
    rw [isFrameHeader, Text.trimStart_append blank, Text.trimStart_of_head first,
      Text.splitOnce?_append colon]
    simpa using ⟨row.nonempty, row.digit⟩

/-! ## Grouping lines -/

/-- Lines in groups.  A group begins at the first line and at every header, and nowhere else. -/
structure Grouped (lines : List (List Char)) (groups : List (List (List Char))) : Prop where
  whole : groups.flatten = lines
  full : ∀ group ∈ groups, group ≠ []
  led : ∀ group ∈ groups, ∀ line ∈ group.tail, ¬ IsHeader line
  headed : ∀ group ∈ groups.tail, ∀ line ∈ group.head?, IsHeader line

section Grouping
variable {line next : List Char} {lines tail : List (List Char)}
  {groups others : List (List (List Char))}

theorem Grouped.nil_eq (grouped : Grouped [] groups) : groups = [] := by
  cases groups with
  | nil => rfl
  | cons group others =>
    have empty := (List.append_eq_nil_iff.mp grouped.whole).1
    exact absurd empty (grouped.full group List.mem_cons_self)

theorem Grouped.exists_first (grouped : Grouped (line :: lines) groups) :
    ∃ tail others, groups = (line :: tail) :: others ∧ tail ++ others.flatten = lines := by
  cases groups with
  | nil => cases grouped.whole
  | cons group others =>
    obtain ⟨first, tail, rfl⟩ := List.exists_cons_of_ne_nil (grouped.full group List.mem_cons_self)
    obtain ⟨rfl, rest⟩ := List.cons.inj grouped.whole
    exact ⟨tail, others, rfl, rest⟩

theorem grouped_header_iff :
    Grouped (line :: next :: lines) ([line] :: groups) ↔
      IsHeader next ∧ Grouped (next :: lines) groups := by
  constructor
  · intro grouped
    have rest : Grouped (next :: lines) groups :=
      { whole := (List.cons.inj grouped.whole).2
        full := (List.forall_mem_cons.mp grouped.full).2
        led := (List.forall_mem_cons.mp grouped.led).2
        headed := fun group inside => grouped.headed group (List.mem_of_mem_tail inside) }
    obtain ⟨tail, others, rfl, -⟩ := rest.exists_first
    exact ⟨grouped.headed (next :: tail) List.mem_cons_self next rfl, rest⟩
  · rintro ⟨header, grouped⟩
    obtain ⟨tail, others, rfl, -⟩ := grouped.exists_first
    exact
      { whole := congrArg (line :: ·) grouped.whole
        full := List.forall_mem_cons.mpr ⟨List.cons_ne_nil line [], grouped.full⟩
        led := List.forall_mem_cons.mpr ⟨by simp, grouped.led⟩
        headed := List.forall_mem_cons.mpr ⟨by simpa using header, grouped.headed⟩ }

theorem grouped_other_iff :
    Grouped (line :: next :: lines) ((line :: next :: tail) :: others) ↔
      ¬ IsHeader next ∧ Grouped (next :: lines) ((next :: tail) :: others) := by
  constructor
  · intro grouped
    obtain ⟨first, behind⟩ := List.forall_mem_cons.mp grouped.led
    obtain ⟨plain, led⟩ := List.forall_mem_cons.mp first
    exact ⟨plain,
      { whole := (List.cons.inj grouped.whole).2
        full := List.forall_mem_cons.mpr
          ⟨List.cons_ne_nil next tail, (List.forall_mem_cons.mp grouped.full).2⟩
        led := List.forall_mem_cons.mpr ⟨led, behind⟩
        headed := grouped.headed }⟩
  · rintro ⟨plain, grouped⟩
    obtain ⟨led, behind⟩ := List.forall_mem_cons.mp grouped.led
    exact
      { whole := congrArg (line :: ·) grouped.whole
        full := List.forall_mem_cons.mpr
          ⟨List.cons_ne_nil line (next :: tail), (List.forall_mem_cons.mp grouped.full).2⟩
        led := List.forall_mem_cons.mpr ⟨List.forall_mem_cons.mpr ⟨plain, led⟩, behind⟩
        headed := grouped.headed }

theorem Grouped.frames_eq (grouped : Grouped lines groups) : frames lines = groups := by
  induction lines generalizing groups with
  | nil => exact grouped.nil_eq.symm
  | cons line lines ih =>
    obtain ⟨tail, others, rfl, rest⟩ := grouped.exists_first
    cases lines with
    | nil =>
      obtain ⟨rfl, none⟩ := List.append_eq_nil_iff.mp rest
      have few : Grouped [] others :=
        ⟨none, (List.forall_mem_cons.mp grouped.full).2, (List.forall_mem_cons.mp grouped.led).2,
          fun group inside => grouped.headed group (List.mem_of_mem_tail inside)⟩
      rw [few.nil_eq]
      rfl
    | cons next lines =>
      cases tail with
      | nil =>
        obtain ⟨header, behind⟩ := grouped_header_iff.mp grouped
        obtain ⟨tail, others, rfl, -⟩ := behind.exists_first
        simp only [frames, ih behind]
        rw [if_pos (isFrameHeader_iff.mpr header)]
      | cons other tail =>
        obtain ⟨rfl, -⟩ := List.cons.inj rest
        obtain ⟨plain, behind⟩ := grouped_other_iff.mp grouped
        simp only [frames, ih behind]
        rw [if_neg (mt isFrameHeader_iff.mp plain)]

theorem grouped_frames (lines : List (List Char)) : Grouped lines (frames lines) := by
  induction lines with
  | nil => exact ⟨rfl, by simp [frames], by simp [frames], by simp [frames]⟩
  | cons line lines ih =>
    cases lines with
    | nil => exact ⟨rfl, by simp [frames], by simp [frames], by simp [frames]⟩
    | cons next lines =>
      obtain ⟨tail, others, first, -⟩ := ih.exists_first
      rw [first] at ih
      simp only [frames, first]
      split
      next header => exact grouped_header_iff.mpr ⟨isFrameHeader_iff.mp header, ih⟩
      next plain => exact grouped_other_iff.mpr ⟨mt isFrameHeader_iff.mpr plain, ih⟩

/-- Lines are grouped in one way only. -/
theorem grouped_iff : Grouped lines groups ↔ frames lines = groups := by
  constructor
  · exact Grouped.frames_eq
  · rintro rfl
    exact grouped_frames lines

end Grouping

/-- Frames that are kept: all of up to nine, else those between the first three and the last
six. -/
structure Kept (groups kept : List (List (List Char))) : Prop where
  few : groups.length ≤ 9 → kept = groups
  many : 9 < groups.length → ∃ inner outer, groups = inner ++ kept ++ outer ∧
    inner.length = 3 ∧ outer.length = 6

theorem kept_keptFrames (groups : List (List (List Char))) : Kept groups (keptFrames groups) := by
  constructor
  · intro few
    rw [keptFrames, minTrimmedFrames, if_neg (Nat.not_lt.mpr few)]
  · intro many
    rw [keptFrames, minTrimmedFrames, if_pos many]
    refine ⟨groups.take 3, groups.drop (groups.length - 6), ?_, ?_, ?_⟩
    · have inner : (groups.take (groups.length - 6)).take 3 = groups.take 3 := by
        rw [List.take_take, Nat.min_eq_left (by omega)]
      rw [innerFrames, outerFrames, ← inner, List.take_append_drop, List.take_append_drop]
    · rw [List.length_take]
      omega
    · rw [List.length_drop]
      omega

namespace Kept

variable {groups kept : List (List (List Char))} (middle : Kept groups kept)
include middle

theorem infix_groups : kept <:+: groups := by
  rcases Nat.lt_or_ge 9 groups.length with many | few
  · obtain ⟨inner, outer, whole, -, -⟩ := middle.many many
    exact ⟨inner, outer, whole.symm⟩
  · exact middle.few few ▸ List.infix_rfl

theorem ne_nil (some : groups ≠ []) : kept ≠ [] := by
  rcases Nat.lt_or_ge 9 groups.length with many | few
  · obtain ⟨inner, outer, whole, first, last⟩ := middle.many many
    rintro rfl
    rw [whole, List.append_nil, List.length_append] at many
    omega
  · rw [middle.few few]
    exact some

end Kept

theorem flatten_infix {kept groups : List (List (List Char))} (inside : kept <:+: groups) :
    kept.flatten <:+: groups.flatten := by
  obtain ⟨inner, outer, rfl⟩ := inside
  exact ⟨inner.flatten, outer.flatten, by simp⟩

theorem trimFramesChars_eq (text : List Char) :
    trimFramesChars text =
      ['\n'].intercalate (keptFrames (frames (Text.lines text))).flatten := by
  have grouped := grouped_frames (Text.lines text)
  have full : ∀ group ∈ keptFrames (frames (Text.lines text)), group ≠ [] := by
    intro group inside
    exact grouped.full group ((kept_keptFrames _).infix_groups.subset inside)
  rw [trimFramesChars, Text.intercalate_flatten full]

/-- Trimming keeps the frames in the middle.  A text has its lines in one way only, and they fall
into groups in one way only.  Of up to nine groups all are kept, and of more the three first and
the six last are dropped; some line is left if there was one.  What is kept is a stretch of the
lines as they were, and it is joined by line feeds. -/
theorem trimFrames_keeps_middle (text : String) :
    ∃ lines groups kept, (∀ others, LinesOf text.toList others ↔ others = lines) ∧
      (∀ others, Grouped lines others ↔ others = groups) ∧ Kept groups kept ∧
        (lines ≠ [] → kept ≠ []) ∧ kept.flatten <:+: lines ∧
          trimFrames text = "\n".intercalate (kept.flatten.map String.ofList) := by
  have grouped := grouped_frames (Text.lines text.toList)
  have middle := kept_keptFrames (frames (Text.lines text.toList))
  refine ⟨Text.lines text.toList, frames (Text.lines text.toList),
    keptFrames (frames (Text.lines text.toList)), ?_, ?_, middle, ?_, ?_, ?_⟩
  · intro others
    rw [Text.linesOf_iff, eq_comm]
  · intro others
    rw [grouped_iff, eq_comm]
  · intro some
    refine middle.ne_nil fun none => some ?_
    rw [← grouped.whole, none, List.flatten_nil]
  · have inside := flatten_infix middle.infix_groups
    rwa [grouped.whole] at inside
  · apply String.toList_injective
    rw [trimFrames, String.toList_ofList, trimFramesChars_eq, String.toList_intercalate]
    simp [List.map_map, Function.comp_def]

/-- Of ten groups the fourth one is left.  The line in front is a group of its own. -/
example :
    trimFrames "stack\n0: a\n1: b\n 2: c\r\n  at src/c.rs:3\n3: d\n4: e\n5: f\n6: g\n7: h\n8: i\n" =
      " 2: c\n  at src/c.rs:3" := by
  decide +kernel

end FaultMesh.StackTrace
