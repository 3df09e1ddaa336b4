import FaultMesh.Config.Expansion
import FaultMesh.Proofs.Text.Blank

/-!
# Placeholders in a line

How a placeholder is spelled, and the scan of a line from left to right: where a placeholder
begins it is taken as a whole, and every other character stands for itself.  The pieces of a
line are those that the scan finds, and a line is scanned in one way only.
-/

set_option autoImplicit false

namespace FaultMesh.Expansion

def Blank (text : List Char) : Prop := ∀ c ∈ text, Text.isBlank c = true

structure IsKey (key : List Char) : Prop where
  nonempty : key ≠ []
  allowed : ∀ c ∈ key, isKeyChar c = true

inductive SpelledFallback : Option String → List Char → Prop
  | absent : SpelledFallback none []
  | given {blanks text : List Char} (blank : Blank blanks) (quoteless : '"' ∉ text) :
    SpelledFallback (some (String.ofList text))
      ('|' :: (blanks ++ ("default(\"".toList ++ (text ++ "\")".toList))))

/-- A placeholder between its braces, with blanks around its parts. -/
inductive Spelled : Placeholder → List Char → Prop
  | braced {leading key between behind trailing : List Char} {fallback : Option String}
    (before : Blank leading) (isKey : IsKey key) (after : Blank between)
    (falls : SpelledFallback fallback behind) (last : Blank trailing) :
    Spelled ⟨String.ofList key, fallback⟩
      (opening ++ (leading ++ (key ++ (between ++ (behind ++ (trailing ++ closing))))))

/-! ## Reading a placeholder -/

section Runs
variable {p : Char → Bool} {run rest : List Char}

theorem takeWhile_run (all : ∀ c ∈ run, p c = true) (stop : ∀ c ∈ rest.head?, p c = false) :
    (run ++ rest).takeWhile p = run := by
  rw [List.takeWhile_append_of_pos all]
  cases rest with
  | nil => exact List.append_nil run
  | cons c rest => rw [List.takeWhile_cons_of_neg (by simp [stop c rfl]), List.append_nil]

theorem dropWhile_run (all : ∀ c ∈ run, p c = true) (stop : ∀ c ∈ rest.head?, p c = false) :
    (run ++ rest).dropWhile p = rest := by
  rw [List.dropWhile_append_of_pos all]
  cases rest with
  | nil => rfl
  | cons c rest => exact List.dropWhile_cons_of_neg (by simp [stop c rfl])

end Runs

theorem exists_blank (text : List Char) :
    ∃ blanks, Blank blanks ∧ text = blanks ++ Text.trimStart text :=
  ⟨text.takeWhile Text.isBlank, List.all_eq_true.mp List.all_takeWhile,
    (List.takeWhile_append_dropWhile).symm⟩

theorem trimStart_blank {blanks text : List Char} (blank : Blank blanks)
    (first : ∀ c ∈ text.head?, Text.isBlank c = false) :
    Text.trimStart (blanks ++ text) = text := by
  rw [Text.trimStart_append blank, Text.trimStart_of_head first]

theorem takeFallback?_eq_some {text rest : List Char} {fallback : String} :
    takeFallback? text = some (fallback, rest) ↔
      ∃ behind, SpelledFallback (some fallback) behind ∧ text = behind ++ rest := by
  simp only [takeFallback?, Option.bind_eq_bind, Option.bind_eq_some_iff, Option.pure_def,
    Option.some.injEq, Prod.mk.injEq, Text.after?_eq_some]
  constructor
  · rintro ⟨first, rfl, second, opened, third, closed, rfl, rfl⟩
    obtain ⟨blanks, blank, same⟩ := exists_blank first
    have quoteless : '"' ∉ second.takeWhile (· ≠ '"') := by
      intro quote
      have other := List.all_eq_true.mp List.all_takeWhile _ quote
      exact absurd rfl (of_decide_eq_true other)
    have whole : second.takeWhile (· ≠ '"') ++ ("\")".toList ++ third) = second := by
      rw [← closed, List.takeWhile_append_dropWhile]
    refine ⟨_, .given blank quoteless, ?_⟩
    simp only [List.append_assoc, List.cons_append, List.nil_append] at whole ⊢
    rw [whole, ← opened, ← same]
  · rintro ⟨_, given, rfl⟩
    cases given with
    | @given blanks text blank quoteless =>
      have plain : ∀ c ∈ text, decide (c ≠ '"') = true := by
        intro c inside
        exact decide_eq_true fun quote => quoteless (quote ▸ inside)
      have stop : ∀ c ∈ ("\")".toList ++ rest).head?, decide (c ≠ '"') = false := by
        rintro c ⟨⟩
        rfl
      refine ⟨_, rfl, text ++ ("\")".toList ++ rest), ?_, rest, dropWhile_run plain stop, ?_, rfl⟩
      · change Text.trimStart (_ ++ rest) = _
        simp only [List.append_assoc]
        refine trimStart_blank blank ?_
        rintro c ⟨⟩
        decide
      · rw [takeWhile_run plain stop]

theorem trimStart_closing {blanks : List Char} (blank : Blank blanks) (rest : List Char) :
    Text.trimStart (blanks ++ (closing ++ rest)) = closing ++ rest := by
  refine trimStart_blank blank ?_
  rintro c ⟨⟩
  decide

section Close
variable {fallback : Option String} {behind trailing text rest : List Char}

theorem takeClose?_closing (rest : List Char) :
    takeClose? (closing ++ rest) = some (none, rest) :=
  rfl

theorem takeClose?_given {given : String} (falls : SpelledFallback (some given) behind)
    (last : Blank trailing) :
    takeClose? (behind ++ (trailing ++ (closing ++ rest))) = some (some given, rest) := by
  have found := takeFallback?_eq_some.mpr
    ⟨behind, falls, (rfl : behind ++ (trailing ++ (closing ++ rest)) = _)⟩
  simp only [takeClose?, found, trimStart_closing last, Text.after?_eq_some.mpr rfl,
    Option.map_some]

theorem spelled_of_takeClose? (found : takeClose? text = some (fallback, rest)) :
    ∃ behind trailing, SpelledFallback fallback behind ∧ Blank trailing ∧
      text = behind ++ (trailing ++ (closing ++ rest)) := by
  unfold takeClose? at found
  split at found
  next given tail taken =>
    simp only [Option.map_eq_some_iff, Prod.mk.injEq, Text.after?_eq_some] at found
    obtain ⟨_, closed, rfl, rfl⟩ := found
    obtain ⟨behind, falls, rfl⟩ := takeFallback?_eq_some.mp taken
    obtain ⟨trailing, blank, same⟩ := exists_blank tail
    exact ⟨behind, trailing, falls, blank, by rw [← closed, ← same]⟩
  next =>
    simp only [Option.map_eq_some_iff, Prod.mk.injEq, Text.after?_eq_some] at found
    obtain ⟨_, rfl, rfl, rfl⟩ := found
    exact ⟨[], [], .absent, fun _ none => absurd none List.not_mem_nil, rfl⟩

end Close

theorem not_isBlank_of_isKeyChar {c : Char} (allowed : isKeyChar c = true) :
    Text.isBlank c = false := by
  simp only [isKeyChar, Bool.or_eq_true, decide_eq_true_eq] at allowed
  rcases allowed with (plain | rfl) | rfl
  · exact Text.not_isBlank_of_isAlphanumeric plain
  · decide
  · decide

theorem not_isKeyChar_of_isBlank {c : Char} (blank : Text.isBlank c = true) :
    isKeyChar c = false := by
  cases allowed : isKeyChar c with
  | false => rfl
  | true =>
    rw [not_isBlank_of_isKeyChar allowed] at blank
    cases blank

theorem SpelledFallback.not_isKeyChar {between behind trailing : List Char}
    {fallback : Option String} (after : Blank between) (falls : SpelledFallback fallback behind)
    (last : Blank trailing) (rest : List Char) :
    ∀ c ∈ (between ++ (behind ++ (trailing ++ (closing ++ rest)))).head?, isKeyChar c = false := by
  intro c first
  -- the first character is that of the first part that is not empty
  cases between with
  | cons b between =>
    cases first
    exact not_isKeyChar_of_isBlank (after _ List.mem_cons_self)
  | nil =>
    cases falls with
    | given =>
      cases first
      decide
    | absent =>
      cases trailing with
      | cons b trailing =>
        cases first
        exact not_isKeyChar_of_isBlank (last _ List.mem_cons_self)
      | nil =>
        cases first
        decide

theorem SpelledFallback.takeClose?_eq {between behind trailing : List Char}
    {fallback : Option String} (after : Blank between) (falls : SpelledFallback fallback behind)
    (last : Blank trailing) (rest : List Char) :
    takeClose? (Text.trimStart (between ++ (behind ++ (trailing ++ (closing ++ rest))))) =
      some (fallback, rest) := by
  rw [Text.trimStart_append after]
  cases falls with
  | absent => rw [List.nil_append, trimStart_closing last, takeClose?_closing]
  | given blank quoteless =>
    rw [Text.trimStart_of_head, takeClose?_given (.given blank quoteless) last]
    rintro c ⟨⟩
    decide

/-- A placeholder is read exactly where one is spelled. -/
theorem takePlaceholder?_eq_some {text rest : List Char} {placeholder : Placeholder} :
    takePlaceholder? text = some (placeholder, rest) ↔
      ∃ spelling, Spelled placeholder spelling ∧ text = spelling ++ rest := by
  constructor
  · intro found
    simp only [takePlaceholder?, Option.bind_eq_bind, Option.bind_eq_some_iff, Option.pure_def,
      Text.after?_eq_some] at found
    obtain ⟨body, rfl, found⟩ := found
    split at found
    · cases found
    next some =>
      simp only [Option.bind_eq_some_iff, Option.some.injEq, Prod.mk.injEq] at found
      obtain ⟨⟨fallback, tail⟩, closed, rfl, rfl⟩ := found
      obtain ⟨leading, before, first⟩ := exists_blank body
      obtain ⟨between, after, second⟩ := exists_blank ((Text.trimStart body).dropWhile isKeyChar)
      obtain ⟨behind, trailing, falls, last, third⟩ := spelled_of_takeClose? closed
      have isKey : IsKey ((Text.trimStart body).takeWhile isKeyChar) :=
        ⟨by simpa using some, List.all_eq_true.mp List.all_takeWhile⟩
      refine ⟨_, .braced before isKey after falls last, ?_⟩
      have whole := List.takeWhile_append_dropWhile (p := isKeyChar) (l := Text.trimStart body)
      rw [second, third] at whole
      simp only [List.append_assoc]
      rw [whole, ← first]
  · rintro ⟨_, spelled, rfl⟩
    -- each run of characters ends where the next part begins
    cases spelled with
    | @braced leading key between behind trailing fallback before isKey after falls last =>
      have start : ∀ c ∈ (key ++ (between ++ (behind ++ (trailing ++ (closing ++ rest))))).head?,
          Text.isBlank c = false := by
        obtain ⟨c, key, rfl⟩ := List.exists_cons_of_ne_nil isKey.nonempty
        rintro _ ⟨⟩
        exact not_isBlank_of_isKeyChar (isKey.allowed c List.mem_cons_self)
      have stop := falls.not_isKeyChar after last rest
      have some : key.isEmpty = false := by simpa using isKey.nonempty
      simp only [List.append_assoc, takePlaceholder?, Option.bind_eq_bind, Option.pure_def,
        Text.after?_eq_some.mpr rfl, Option.bind_some, trimStart_blank before start,
        takeWhile_run isKey.allowed stop, dropWhile_run isKey.allowed stop, some,
        falls.takeClose?_eq after last, Bool.false_eq_true, if_false]

/-! ## Scanning a line -/

/-- A placeholder begins a text. -/
def Begins (text : List Char) : Prop :=
  ∃ placeholder spelling rest, Spelled placeholder spelling ∧ text = spelling ++ rest

/-- One pass over a line: a placeholder is taken where it begins, and what is in it is not
scanned again; any other character is a piece of its own. -/
inductive Scan : List Char → List Piece → Prop
  | nil : Scan [] []
  | literal {c : Char} {rest : List Char} {pieces : List Piece} (none : ¬ Begins (c :: rest))
    (behind : Scan rest pieces) : Scan (c :: rest) (.literal c :: pieces)
  | placeholder {placeholder : Placeholder} {spelling rest : List Char} {pieces : List Piece}
    (spelled : Spelled placeholder spelling) (behind : Scan rest pieces) :
    Scan (spelling ++ rest) (.placeholder placeholder :: pieces)

section Scan
variable {c : Char} {text rest spelling : List Char} {placeholder : Placeholder}

theorem Spelled.taken (spelled : Spelled placeholder spelling) (rest : List Char) :
    takePlaceholder? (spelling ++ rest) = some (placeholder, rest) :=
  takePlaceholder?_eq_some.mpr ⟨spelling, spelled, rfl⟩

theorem not_begins_iff : ¬ Begins text ↔ takePlaceholder? text = none := by
  constructor
  · intro none
    cases taken : takePlaceholder? text with
    | none => rfl
    | some result =>
      obtain ⟨spelling, spelled, same⟩ := takePlaceholder?_eq_some.mp taken
      exact absurd ⟨result.1, spelling, result.2, spelled, same⟩ none
  · rintro none ⟨placeholder, spelling, rest, spelled, rfl⟩
    rw [spelled.taken] at none
    cases none

theorem pieces_of_none (none : takePlaceholder? (c :: rest) = none) :
    pieces (c :: rest) = .literal c :: pieces rest := by
  rw [pieces]
  split
  next taken =>
    rw [none] at taken
    cases taken
  next => rfl

theorem pieces_of_some (some : takePlaceholder? text = some (placeholder, rest)) :
    pieces text = .placeholder placeholder :: pieces rest := by
  cases text with
  | nil => cases some
  | cons c others =>
    rw [pieces]
    split
    next taken =>
      rw [some] at taken
      cases taken
      rfl
    next missing =>
      rw [some] at missing
      cases missing

theorem Scan.pieces_eq {found : List Piece} (scan : Scan text found) : pieces text = found := by
  induction scan with
  | nil => rw [pieces]
  | literal none _ ih => rw [pieces_of_none (not_begins_iff.mp none), ih]
  | placeholder spelled _ ih => rw [pieces_of_some (spelled.taken _), ih]

theorem exists_scanned (text : List Char) : ∃ found, Scan text found := by
  -- on the length, since what stands behind a placeholder is any shorter text
  induction length : text.length using Nat.strongRecOn generalizing text with
  | ind n ih =>
    subst length
    cases text with
    | nil => exact ⟨[], .nil⟩
    | cons c others =>
      cases taken : takePlaceholder? (c :: others) with
      | none =>
        obtain ⟨found, behind⟩ := ih others.length (Nat.lt_succ_self _) others rfl
        exact ⟨_, .literal (not_begins_iff.mpr taken) behind⟩
      | some result =>
        obtain ⟨placeholder, rest⟩ := result
        obtain ⟨found, behind⟩ := ih rest.length (length_takePlaceholder?_lt taken) rest rfl
        obtain ⟨spelling, spelled, same⟩ := takePlaceholder?_eq_some.mp taken
        rw [same]
        exact ⟨_, .placeholder spelled behind⟩

/-- The pieces of a line are what its scan finds, and there is only one. -/
theorem scan_iff {found : List Piece} : Scan text found ↔ pieces text = found := by
  constructor
  · exact Scan.pieces_eq
  · rintro rfl
    obtain ⟨found, scan⟩ := exists_scanned text
    exact scan.pieces_eq ▸ scan

end Scan

end FaultMesh.Expansion
