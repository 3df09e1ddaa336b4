import FaultMesh.Text.Cut

/-!
# Lines of a text

A line ends at a line feed, with the carriage return before it if there is one, or at the end
of the text.  A text has its lines in one way only, and lines that are joined group by group
are joined.
-/

set_option autoImplicit false

namespace FaultMesh.Text

/-- The lines of a text: the empty text has none, and what stands behind the last line feed is a
line unless it is empty. -/
inductive LinesOf : List Char → List (List Char) → Prop
  | nil : LinesOf [] []
  | unended {line : List Char} (some : line ≠ []) (plain : '\n' ∉ line) : LinesOf line [line]
  | feed {line text : List Char} {lines : List (List Char)} (plain : '\n' ∉ line)
    (ends : line.getLast? ≠ some '\r') (behind : LinesOf text lines) :
    LinesOf (line ++ '\n' :: text) (line :: lines)
  | returnFeed {line text : List Char} {lines : List (List Char)} (plain : '\n' ∉ line)
    (behind : LinesOf text lines) : LinesOf (line ++ '\r' :: '\n' :: text) (line :: lines)

theorem linesFrom_unended {text : List Char} (plain : '\n' ∉ text) (line : List Char) :
    linesFrom line text =
      if (line.reverse ++ text).isEmpty then [] else [line.reverse ++ text] := by
  induction text generalizing line with
  | nil => simp [linesFrom]
  | cons c text ih =>
    rw [List.mem_cons, not_or] at plain
    rw [linesFrom, if_neg (Ne.symm plain.1), ih plain.2, List.reverse_cons, List.append_assoc,
      List.singleton_append]

theorem linesFrom_feed {piece : List Char} (plain : '\n' ∉ piece) (line text : List Char) :
    linesFrom line (piece ++ '\n' :: text) =
      finishLine (piece.reverse ++ line) :: linesFrom [] text := by
  induction piece generalizing line with
  | nil => rfl
  | cons c piece ih =>
    rw [List.mem_cons, not_or] at plain
    rw [List.cons_append, linesFrom, if_neg (Ne.symm plain.1), ih plain.2, List.reverse_cons,
      List.append_assoc, List.singleton_append]

theorem finishLine_of_ends {line : List Char} (ends : line.getLast? ≠ some '\r') :
    finishLine line.reverse = line := by
  rw [← List.head?_reverse] at ends
  unfold finishLine
  split
  next rest same =>
    rw [same] at ends
    exact absurd rfl ends
  next => exact List.reverse_reverse line

theorem finishLine_return (line : List Char) : finishLine (line ++ ['\r']).reverse = line := by
  rw [List.reverse_append]
  exact List.reverse_reverse line

theorem lines_feed {piece : List Char} (plain : '\n' ∉ piece) (text : List Char) :
    lines (piece ++ '\n' :: text) = finishLine piece.reverse :: lines text := by
  rw [lines, linesFrom_feed plain, List.append_nil, lines]

theorem LinesOf.lines_eq {text : List Char} {all : List (List Char)} (linesOf : LinesOf text all) :
    lines text = all := by
  induction linesOf with
  | nil => rfl
  | unended some plain =>
    rw [lines, linesFrom_unended plain, if_neg (by simpa using some)]
    rfl
  | feed plain ends _ ih => rw [lines_feed plain, finishLine_of_ends ends, ih]
  | @returnFeed line text lines plain _ ih =>
    have unfed : '\n' ∉ line ++ ['\r'] := by simp [plain]
    have whole : line ++ '\r' :: '\n' :: text = (line ++ ['\r']) ++ '\n' :: text := by simp
    rw [whole, lines_feed unfed, finishLine_return, ih]

theorem exists_linesOf (text : List Char) : ∃ all, LinesOf text all := by
  -- on the length, since what stands behind a line feed is any shorter text
  induction length : text.length using Nat.strongRecOn generalizing text with
  | ind n ih =>
    by_cases plain : '\n' ∈ text
    · obtain ⟨line, rest, rfl, first⟩ := List.eq_append_cons_of_mem plain
      have shorter : rest.length < n := by
        simp only [List.length_append, List.length_cons] at length
        omega
      obtain ⟨all, behind⟩ := ih rest.length shorter rest rfl
      by_cases ends : line.getLast? = some '\r'
      · obtain ⟨content, rfl⟩ := List.getLast?_eq_some_iff.mp ends
        rw [List.mem_append, not_or] at first
        rw [List.append_assoc, List.singleton_append]
        exact ⟨content :: all, .returnFeed first.1 behind⟩
      · exact ⟨line :: all, .feed first ends behind⟩
    · cases text with
      | nil => exact ⟨[], .nil⟩
      | cons c text => exact ⟨_, .unended (List.cons_ne_nil c text) plain⟩

theorem linesOf_iff {text : List Char} {all : List (List Char)} :
    LinesOf text all ↔ lines text = all := by
  constructor
  · exact LinesOf.lines_eq
  · rintro rfl
    obtain ⟨all, linesOf⟩ := exists_linesOf text
    exact linesOf.lines_eq ▸ linesOf

/-- A text with a bare line feed at every line end: without the carriage returns that stand
before line feeds. -/
def bareFeeds : List Char → List Char
  | [] => []
  | c :: rest => if c = '\r' ∧ rest.head? = some '\n' then bareFeeds rest else c :: bareFeeds rest

theorem bareFeeds_feed (text : List Char) : bareFeeds ('\n' :: text) = '\n' :: bareFeeds text := by
  rw [bareFeeds, if_neg]
  rintro ⟨same, -⟩
  exact absurd same (by decide)

theorem bareFeeds_return (text : List Char) :
    bareFeeds ('\r' :: '\n' :: text) = '\n' :: bareFeeds text := by
  rw [bareFeeds, if_pos ⟨rfl, rfl⟩, bareFeeds_feed]

theorem bareFeeds_append {line : List Char} (plain : '\n' ∉ line) {text : List Char}
    (apart : line.getLast? = some '\r' → text.head? ≠ some '\n') :
    bareFeeds (line ++ text) = line ++ bareFeeds text := by
  induction line with
  | nil => rfl
  | cons c line ih =>
    rw [List.mem_cons, not_or] at plain
    have kept : ¬ (c = '\r' ∧ (line ++ text).head? = some '\n') := by
      rintro ⟨rfl, next⟩
      cases line with
      | nil => exact apart rfl next
      | cons d line =>
        obtain rfl := Option.some.inj next
        exact plain.2 List.mem_cons_self
    have behind : line.getLast? = some '\r' → text.head? ≠ some '\n' := by
      cases line with
      | nil => exact fun none => by cases none
      | cons d line => exact apart
    rw [List.cons_append, bareFeeds, if_neg kept, ih plain.2 behind, List.cons_append]

theorem bareFeeds_line {line : List Char} (plain : '\n' ∉ line) : bareFeeds line = line := by
  have whole : bareFeeds (line ++ []) = line ++ bareFeeds [] :=
    bareFeeds_append plain fun _ none => by cases none
  rwa [List.append_nil, bareFeeds, List.append_nil] at whole

theorem length_bareFeeds_le (text : List Char) : (bareFeeds text).length ≤ text.length := by
  induction text with
  | nil => exact Nat.le_refl _
  | cons c text ih =>
    rw [bareFeeds]
    split <;> simp only [List.length_cons] <;> omega

/-- Nothing is taken out exactly when no carriage return stands before a line feed. -/
theorem bareFeeds_eq_self_iff (text : List Char) :
    bareFeeds text = text ↔ ¬ ['\r', '\n'] <:+: text := by
  induction text with
  | nil => simp [bareFeeds]
  | cons c text ih =>
    have begins : ['\r', '\n'] <+: c :: text ↔ c = '\r' ∧ text.head? = some '\n' := by
      rw [List.cons_prefix_cons, List.singleton_prefix_iff_head?_eq_some, eq_comm]
    rw [List.infix_cons_iff, begins, not_or, ← ih, bareFeeds]
    by_cases taken : c = '\r' ∧ text.head? = some '\n'
    · have shorter := length_bareFeeds_le text
      rw [if_pos taken]
      constructor
      · intro same
        have sizes := congrArg List.length same
        rw [List.length_cons] at sizes
        omega
      · rintro ⟨other, -⟩
        exact absurd taken other
    · rw [if_neg taken, List.cons.injEq]
      exact ⟨fun same => ⟨taken, same.2⟩, fun same => ⟨rfl, same.2⟩⟩

variable {separator : List Char}

theorem intercalate_append {first second : List (List Char)} (some : first ≠ [])
    (more : second ≠ []) :
    List.intercalate separator (first ++ second) =
      List.intercalate separator first ++ separator ++ List.intercalate separator second := by
  induction first with
  | nil => exact absurd rfl some
  | cons piece first ih =>
    cases first with
    | nil =>
      rw [List.intercalate_singleton]
      exact List.intercalate_cons_of_ne_nil more
    | cons next first =>
      have own := List.cons_ne_nil next first
      rw [List.cons_append,
        List.intercalate_cons_of_ne_nil (List.append_ne_nil_of_left_ne_nil own second), ih own,
        List.intercalate_cons_of_ne_nil own]
      simp only [List.append_assoc]

theorem intercalate_flatten {groups : List (List (List Char))} (full : ∀ group ∈ groups, group ≠ []) :
    List.intercalate separator (groups.map (List.intercalate separator)) =
      List.intercalate separator groups.flatten := by
  induction groups with
  | nil => rfl
  | cons group groups ih =>
    obtain ⟨first, others⟩ := List.forall_mem_cons.mp full
    cases groups with
    | nil => simp
    | cons next groups =>
      have more : (next :: groups).flatten ≠ [] := by simp [others next List.mem_cons_self]
      have whole : (group :: next :: groups).flatten = group ++ (next :: groups).flatten := rfl
      rw [List.map_cons, List.intercalate_cons_of_ne_nil (by simp), ih others, whole,
        intercalate_append first more]

def finalFeed (text : List Char) : List Char := if text.getLast? = some '\n' then ['\n'] else []

theorem finalFeed_line {line : List Char} (plain : '\n' ∉ line) : finalFeed line = [] :=
  if_neg fun last => plain (List.mem_of_getLast? last)

theorem finalFeed_behind {text : List Char} (more : text ≠ []) (front : List Char) :
    finalFeed (front ++ '\n' :: text) = finalFeed text := by
  have last := List.getLast?_eq_some_getLast more
  have same : (front ++ '\n' :: text).getLast? = text.getLast? := by
    rw [List.getLast?_append, List.getLast?_cons, last]
    rfl
  rw [finalFeed, same, finalFeed]

theorem intercalate_ended {text : List Char} {lines : List (List Char)} (behind : LinesOf text lines)
    (line front : List Char) :
    List.intercalate ['\n'] (line :: lines) ++ finalFeed (front ++ '\n' :: text) =
      line ++ '\n' :: (List.intercalate ['\n'] lines ++ finalFeed text) := by
  cases behind with
  | nil => simp [finalFeed]
  | unended some plain =>
    rw [finalFeed_behind some, List.intercalate_cons_of_ne_nil (by simp)]
    simp
  | feed plain ends behind =>
    rw [finalFeed_behind (by simp), List.intercalate_cons_of_ne_nil (by simp)]
    simp
  | returnFeed plain behind =>
    rw [finalFeed_behind (by simp), List.intercalate_cons_of_ne_nil (by simp)]
    simp

/-- The lines of a text with line feeds between them, and one behind them if the text ends in
one, are the text with bare line feeds. -/
theorem intercalate_lines (text : List Char) :
    List.intercalate ['\n'] (lines text) ++ finalFeed text = bareFeeds text := by
  obtain ⟨all, linesOf⟩ := exists_linesOf text
  rw [linesOf.lines_eq]
  induction linesOf with
  | nil => rfl
  | unended some plain =>
    rw [List.intercalate_singleton, finalFeed_line plain, List.append_nil, bareFeeds_line plain]
  | feed plain ends behind ih =>
    rw [intercalate_ended behind, ih, bareFeeds_append plain (fun last => absurd last ends),
      bareFeeds_feed]
  | @returnFeed line text lines plain behind ih =>
    have split : line ++ '\r' :: '\n' :: text = (line ++ ['\r']) ++ '\n' :: text := by simp
    rw [split, intercalate_ended behind, ih, ← split,
      bareFeeds_append plain (fun _ other => by cases other), bareFeeds_return]

end FaultMesh.Text
