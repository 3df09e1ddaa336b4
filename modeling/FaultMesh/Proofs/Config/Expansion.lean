import Mathlib.Data.List.Forall2
import FaultMesh.Proofs.Config.Placeholders
import FaultMesh.Proofs.Outcome
import FaultMesh.Proofs.Text.Cut
import FaultMesh.Proofs.Text.Lines
import FaultMesh.Proofs.Text.Utf8

/-!
# Expanding a text

Lines of comment are kept and all others are scanned once.  A placeholder stands for the value of
its variable, or for the text to fall back on where no text is set; one that stands for nothing
is unusable, and the first of these in the text decides how expansion fails.
-/

set_option autoImplicit false

namespace FaultMesh.Expansion

/-- A key names a variable: the scope of the environment and a name without dots. -/
inductive Names : String → String → Prop
  | inScope {name : String} (some : name ≠ "") (dotless : '.' ∉ name.toList) :
    Names ("env." ++ name) name

def Holds (environment : Environment) (name value : String) : Prop :=
  environment.octets? name = some (Text.Utf8.encodeString value)

inductive Stands (environment : Environment) : Placeholder → List Char → Prop
  | value {key name value : String} {fallback : Option String} (names : Names key name)
    (holds : Holds environment name value) : Stands environment ⟨key, fallback⟩ value.toList
  | fallback {key name fallback : String} (names : Names key name)
    (unset : ∀ value, ¬ Holds environment name value) :
    Stands environment ⟨key, some fallback⟩ fallback.toList

inductive Unusable (environment : Environment) : Placeholder → ExpansionError → Prop
  | scope {key : String} {fallback : Option String} (other : ∀ name, ¬ Names key name) :
    Unusable environment ⟨key, fallback⟩ (.unsupportedScope key)
  | missing {key name : String} (names : Names key name)
    (unset : ∀ value, ¬ Holds environment name value) :
    Unusable environment ⟨key, none⟩ (.missingVariable name)

section Placeholders
variable {environment : Environment} {placeholder : Placeholder} {text : List Char}
  {reason : ExpansionError}

theorem scopedName?_eq_some {key name : String} : scopedName? key = some name ↔ Names key name := by
  rw [scopedName?]
  constructor
  · intro found
    split at found
    next scope text cut =>
      obtain ⟨-, whole⟩ := Text.splitOnce?_eq_some_iff.mp cut
      split at found
      next held =>
        obtain ⟨rfl, some, dotless⟩ := held
        obtain rfl := Option.some.inj found
        have same : key = "env." ++ String.ofList text := by
          rw [← String.toList_inj, whole]
          simp
        rw [same]
        exact .inScope (by simpa using some) (by rwa [String.toList_ofList])
      next => cases found
    next => cases found
  · rintro ⟨some, dotless⟩
    have cut : Text.splitOnce? '.' ("env." ++ name).toList = .some ("env".toList, name.toList) := by
      rw [Text.splitOnce?_eq_some_iff, String.toList_append]
      exact ⟨by decide, rfl⟩
    have held : "env".toList = "env".toList ∧ name.toList ≠ [] ∧ '.' ∉ name.toList :=
      ⟨rfl, by simpa using some, dotless⟩
    rw [cut]
    exact (if_pos held).trans (congrArg Option.some String.ofList_toList)

theorem text?_eq_some {name value : String} :
    environment.text? name = some value ↔ Holds environment name value := by
  simp only [Environment.text?, Option.bind_eq_some_iff, Text.Utf8.decode?_eq_some_iff, Holds]
  constructor
  · rintro ⟨octets, set, rfl⟩
    exact set
  · exact fun set => ⟨_, set, rfl⟩

theorem text?_eq_none {name : String} :
    environment.text? name = none ↔ ∀ value, ¬ Holds environment name value := by
  simp only [Option.eq_none_iff_forall_ne_some, ne_eq, text?_eq_some]

theorem Stands.expandPlaceholder_eq (stands : Stands environment placeholder text) :
    expandPlaceholder environment placeholder = .ok text := by
  cases stands with
  | value names holds =>
    simp only [expandPlaceholder, scopedName?_eq_some.mpr names, text?_eq_some.mpr holds]
  | fallback names unset =>
    simp only [expandPlaceholder, scopedName?_eq_some.mpr names, text?_eq_none.mpr unset]

theorem Unusable.expandPlaceholder_eq (unusable : Unusable environment placeholder reason) :
    expandPlaceholder environment placeholder = .error reason := by
  cases unusable with
  | scope other =>
    have none : scopedName? _ = none :=
      Option.eq_none_iff_forall_ne_some.mpr fun name => mt scopedName?_eq_some.mp (other name)
    simp only [expandPlaceholder, none]
  | missing names unset =>
    simp only [expandPlaceholder, scopedName?_eq_some.mpr names, text?_eq_none.mpr unset]

theorem stands_or_unusable (environment : Environment) (placeholder : Placeholder) :
    (∃ text, Stands environment placeholder text) ∨
      ∃ reason, Unusable environment placeholder reason := by
  obtain ⟨key, fallback⟩ := placeholder
  cases found : scopedName? key with
  | none =>
    refine .inr ⟨_, .scope fun name names => ?_⟩
    rw [scopedName?_eq_some.mpr names] at found
    cases found
  | some name =>
    have names := scopedName?_eq_some.mp found
    cases set : environment.text? name with
    | some value => exact .inl ⟨_, .value names (text?_eq_some.mp set)⟩
    | none =>
      have unset := text?_eq_none.mp set
      cases fallback with
      | some fallback => exact .inl ⟨_, .fallback names unset⟩
      | none => exact .inr ⟨_, .missing names unset⟩

end Placeholders

/-! ## Filling pieces -/

/-- Pieces with what their placeholders stand for in place of these. -/
inductive Filled (environment : Environment) : List Piece → List Char → Prop
  | nil : Filled environment [] []
  | literal {c : Char} {pieces : List Piece} {text : List Char}
    (behind : Filled environment pieces text) :
    Filled environment (.literal c :: pieces) (c :: text)
  | placeholder {placeholder : Placeholder} {pieces : List Piece} {value text : List Char}
    (stands : Stands environment placeholder value) (behind : Filled environment pieces text) :
    Filled environment (.placeholder placeholder :: pieces) (value ++ text)

/-- The first placeholder that stands for nothing, and why it does not. -/
inductive FirstUnusable (environment : Environment) : List Piece → ExpansionError → Prop
  | here {placeholder : Placeholder} {reason : ExpansionError} {behind : List Piece}
    (unusable : Unusable environment placeholder reason) :
    FirstUnusable environment (.placeholder placeholder :: behind) reason
  | literal {c : Char} {pieces : List Piece} {reason : ExpansionError}
    (behind : FirstUnusable environment pieces reason) :
    FirstUnusable environment (.literal c :: pieces) reason
  | placeholder {placeholder : Placeholder} {value : List Char} {pieces : List Piece}
    {reason : ExpansionError} (stands : Stands environment placeholder value)
    (behind : FirstUnusable environment pieces reason) :
    FirstUnusable environment (.placeholder placeholder :: pieces) reason

section Pieces
variable {environment : Environment} {pieces : List Piece} {text : List Char}
  {reason : ExpansionError}

theorem Filled.expandPieces_eq (filled : Filled environment pieces text) :
    expandPieces environment pieces = .ok text := by
  induction filled with
  | nil => rfl
  | literal _ ih => simp only [expandPieces, expandPiece, ih]; rfl
  | placeholder stands _ ih =>
    simp only [expandPieces, expandPiece, stands.expandPlaceholder_eq, ih]
    rfl

theorem FirstUnusable.expandPieces_eq (first : FirstUnusable environment pieces reason) :
    expandPieces environment pieces = .error reason := by
  induction first with
  | here unusable =>
    simp only [expandPieces, expandPiece, unusable.expandPlaceholder_eq]
    rfl
  | literal _ ih => simp only [expandPieces, expandPiece, ih]; rfl
  | placeholder stands _ ih =>
    simp only [expandPieces, expandPiece, stands.expandPlaceholder_eq, ih]
    rfl

theorem filled_or_firstUnusable (environment : Environment) (pieces : List Piece) :
    (∃ text, Filled environment pieces text) ∨
      ∃ reason, FirstUnusable environment pieces reason := by
  induction pieces with
  | nil => exact .inl ⟨[], .nil⟩
  | cons piece pieces ih =>
    cases piece with
    | literal c =>
      rcases ih with ⟨text, filled⟩ | ⟨reason, first⟩
      · exact .inl ⟨_, .literal filled⟩
      · exact .inr ⟨_, .literal first⟩
    | placeholder placeholder =>
      rcases stands_or_unusable environment placeholder with ⟨value, stands⟩ | ⟨reason, unusable⟩
      · rcases ih with ⟨text, filled⟩ | ⟨reason, first⟩
        · exact .inl ⟨_, .placeholder stands filled⟩
        · exact .inr ⟨_, .placeholder stands first⟩
      · exact .inr ⟨_, .here unusable⟩

theorem expandPieces_eq_ok :
    expandPieces environment pieces = .ok text ↔ Filled environment pieces text := by
  constructor
  · intro expanded
    rcases filled_or_firstUnusable environment pieces with ⟨other, filled⟩ | ⟨reason, first⟩
    · rw [filled.expandPieces_eq, Except.ok.injEq] at expanded
      exact expanded ▸ filled
    · rw [first.expandPieces_eq] at expanded
      cases expanded
  · exact Filled.expandPieces_eq

theorem expandPieces_eq_error :
    expandPieces environment pieces = .error reason ↔ FirstUnusable environment pieces reason := by
  constructor
  · intro failed
    rcases filled_or_firstUnusable environment pieces with ⟨text, filled⟩ | ⟨other, first⟩
    · rw [filled.expandPieces_eq] at failed
      cases failed
    · rw [first.expandPieces_eq, Except.error.injEq] at failed
      exact failed ▸ first
  · exact FirstUnusable.expandPieces_eq

theorem Filled.exists_stands {placeholder : Placeholder}
    (filled : Filled environment pieces text) (inside : .placeholder placeholder ∈ pieces) :
    ∃ value, Stands environment placeholder value := by
  induction filled with
  | nil => cases inside
  | literal _ ih =>
    rcases List.mem_cons.mp inside with same | behind
    · cases same
    · exact ih behind
  | placeholder stands _ ih =>
    rcases List.mem_cons.mp inside with same | behind
    · cases same
      exact ⟨_, stands⟩
    · exact ih behind

theorem exists_firstUnusable_iff :
    (∃ reason, FirstUnusable environment pieces reason) ↔
      ∃ placeholder reason, .placeholder placeholder ∈ pieces ∧
        Unusable environment placeholder reason := by
  constructor
  · rintro ⟨reason, first⟩
    induction first with
    | here unusable => exact ⟨_, _, List.mem_cons_self, unusable⟩
    | literal _ ih =>
      obtain ⟨placeholder, reason, inside, unusable⟩ := ih
      exact ⟨placeholder, reason, List.mem_cons_of_mem _ inside, unusable⟩
    | placeholder _ _ ih =>
      obtain ⟨placeholder, reason, inside, unusable⟩ := ih
      exact ⟨placeholder, reason, List.mem_cons_of_mem _ inside, unusable⟩
  · rintro ⟨placeholder, reason, inside, unusable⟩
    rcases filled_or_firstUnusable environment pieces with ⟨text, filled⟩ | first
    · obtain ⟨value, stands⟩ := filled.exists_stands inside
      have both := stands.expandPlaceholder_eq
      rw [unusable.expandPlaceholder_eq] at both
      cases both
    · exact first

theorem expandPieces_append (first second : List Piece) :
    expandPieces environment (first ++ second) =
      (do let text ← expandPieces environment first
          let others ← expandPieces environment second
          return text ++ others) := by
  induction first with
  | nil =>
    rw [List.nil_append]
    cases expandPieces environment second with
    | error reason => rfl
    | ok others => rfl
  | cons piece first ih =>
    rw [List.cons_append, expandPieces, expandPieces, ih]
    cases expandPiece environment piece with
    | error reason => rfl
    | ok text =>
      cases expandPieces environment first with
      | error reason => rfl
      | ok behind =>
        cases expandPieces environment second with
        | error reason => rfl
        | ok others => exact congrArg Except.ok (List.append_assoc text behind others).symm

end Pieces

/-! ## Lines -/

/-- A line whose first character that is no blank is a hash. -/
def IsComment (line : List Char) : Prop :=
  ∃ blanks rest, Blank blanks ∧ line = blanks ++ '#' :: rest

inductive LineOf : List Char → List Piece → Prop
  | comment {line : List Char} (comment : IsComment line) : LineOf line (line.map .literal)
  | scanned {line : List Char} {pieces : List Piece} (other : ¬ IsComment line)
    (scan : Scan line pieces) : LineOf line pieces

def Laid (text : List Char) (contents : List (List Piece)) : Prop :=
  ∃ lines, Text.LinesOf text lines ∧ List.Forall₂ LineOf lines contents

def linePieces (line : List Char) : List Piece :=
  if isComment line then line.map .literal else pieces line

section Lines
variable {environment : Environment} {line : List Char} {contents : List (List Piece)}

theorem isComment_iff : isComment line = true ↔ IsComment line := by
  rw [isComment, decide_eq_true_eq]
  constructor
  · intro first
    obtain ⟨blanks, blank, whole⟩ := exists_blank line
    obtain ⟨rest, trimmed⟩ := List.head?_eq_some_iff.mp first
    exact ⟨blanks, rest, blank, by rw [← trimmed, ← whole]⟩
  · rintro ⟨blanks, rest, blank, rfl⟩
    rw [trimStart_blank blank]
    · rfl
    · rintro c ⟨⟩
      decide

theorem lineOf_iff {found : List Piece} : LineOf line found ↔ linePieces line = found := by
  rw [linePieces]
  constructor
  · intro lineOf
    cases lineOf with
    | comment comment => rw [if_pos (isComment_iff.mpr comment)]
    | scanned other scan => rw [if_neg (mt isComment_iff.mp other), scan.pieces_eq]
  · rintro rfl
    split
    next comment => exact .comment (isComment_iff.mp comment)
    next other => exact .scanned (mt isComment_iff.mpr other) (scan_iff.mpr rfl)

theorem laid_iff {text : List Char} :
    Laid text contents ↔ (Text.lines text).map linePieces = contents := by
  have each {lines : List (List Char)} :
      List.Forall₂ LineOf lines contents ↔ lines.map linePieces = contents := by
    have same : LineOf = fun line found => linePieces line = found :=
      funext₂ fun _ _ => propext lineOf_iff
    rw [same, ← List.forall₂_map_left_iff (R := (· = ·)), List.forall₂_eq_eq_eq]
  constructor
  · rintro ⟨lines, linesOf, all⟩
    rw [Text.linesOf_iff.mp linesOf, each.mp all]
  · intro same
    exact ⟨_, Text.linesOf_iff.mpr rfl, each.mpr same⟩

theorem expandLine_eq (environment : Environment) (line : List Char) :
    expandLine environment line = expandPieces environment (linePieces line) := by
  have kept (text : List Char) : expandPieces environment (text.map .literal) = .ok text := by
    induction text with
    | nil => rfl
    | cons c text ih => rw [List.map_cons, expandPieces, ih]; rfl
  rw [expandLine, linePieces]
  split
  -- a comment is filled as it is, since none of its pieces is a placeholder
  next => exact (kept line).symm
  next => rfl

theorem flatten_expandLines (environment : Environment) (lines : List (List Char)) :
    (expandLines environment lines).map List.flatten =
      expandPieces environment (lines.map linePieces).flatten := by
  induction lines with
  | nil => rfl
  | cons line lines ih =>
    rw [List.map_cons, List.flatten_cons, expandPieces_append, ← ih, expandLines, expandLine_eq]
    cases expandPieces environment (linePieces line) with
    | error reason => rfl
    | ok text =>
      cases expandLines environment lines with
      | error reason => rfl
      | ok others => rfl

theorem expandLines_eq_ok {lines filled : List (List Char)} :
    expandLines environment lines = .ok filled ↔
      List.Forall₂ (Filled environment) (lines.map linePieces) filled := by
  induction lines generalizing filled with
  | nil => simp [expandLines, eq_comm]
  | cons line lines ih =>
    simp only [expandLines, bind_eq_ok, expandLine_eq, expandPieces_eq_ok, ih, pure_eq_ok,
      List.map_cons, List.forall₂_cons_left_iff]
    constructor
    · rintro ⟨text, first, others, rest, rfl⟩
      exact ⟨text, others, first, rest, rfl⟩
    · rintro ⟨text, others, first, rest, rfl⟩
      exact ⟨text, first, others, rest, rfl⟩

theorem expandLines_eq_error {lines : List (List Char)} {reason : ExpansionError} :
    expandLines environment lines = .error reason ↔
      FirstUnusable environment (lines.map linePieces).flatten reason := by
  rw [← expandPieces_eq_error, ← flatten_expandLines, map_eq_error]

end Lines

/-- Lines with a line feed between them, and one behind them if the text that they come from ends
in one. -/
def rejoined (text : List Char) (filled : List (List Char)) : List Char :=
  ['\n'].intercalate filled ++ if text.getLast? = some '\n' then ['\n'] else []

theorem expand_eq (environment : Environment) (text : String) :
    expand environment text = (expandLines environment (Text.lines text.toList)).map fun filled =>
      String.ofList (rejoined text.toList filled) := by
  rw [expand, expandChars]
  cases expandLines environment (Text.lines text.toList) with
  | error reason => rfl
  | ok filled => rfl

theorem expand_eq_ok {environment : Environment} {text output : String} :
    expand environment text = .ok output ↔ ∃ contents filled, Laid text.toList contents ∧
      List.Forall₂ (Filled environment) contents filled ∧
        output.toList = rejoined text.toList filled := by
  simp only [expand_eq, map_eq_ok, expandLines_eq_ok, laid_iff]
  constructor
  · rintro ⟨filled, all, rfl⟩
    exact ⟨_, filled, rfl, all, String.toList_ofList⟩
  · rintro ⟨_, filled, rfl, all, same⟩
    exact ⟨filled, all, by rw [← same, String.ofList_toList]⟩

theorem expand_eq_error {environment : Environment} {text : String} {reason : ExpansionError} :
    expand environment text = .error reason ↔ ∃ contents, Laid text.toList contents ∧
      FirstUnusable environment contents.flatten reason := by
  simp only [expand_eq, map_eq_error, expandLines_eq_error, laid_iff, exists_eq_left']

/-- Expansion is one pass.  A text is laid out in one way only; it expands to its lines, filled
one by one, and fails exactly when some placeholder outside of the comments is unusable, for the
reason of the first one. -/
theorem expand_passes_once (environment : Environment) (text : String) :
    (∃! contents, Laid text.toList contents) ∧
      (∀ output, expand environment text = .ok output ↔
        ∃ contents filled, Laid text.toList contents ∧
          List.Forall₂ (Filled environment) contents filled ∧
            output.toList = rejoined text.toList filled) ∧
      (∀ reason, expand environment text = .error reason ↔
        ∃ contents, Laid text.toList contents ∧
          FirstUnusable environment contents.flatten reason) ∧
      ((∃ reason, expand environment text = .error reason) ↔
        ∃ contents placeholder reason, Laid text.toList contents ∧
          .placeholder placeholder ∈ contents.flatten ∧
            Unusable environment placeholder reason) := by
  refine ⟨⟨_, laid_iff.mpr rfl, fun other laid => (laid_iff.mp laid).symm⟩,
    fun output => expand_eq_ok, fun reason => expand_eq_error, ?_⟩
  constructor
  · rintro ⟨reason, failed⟩
    obtain ⟨contents, laid, first⟩ := expand_eq_error.mp failed
    obtain ⟨placeholder, why, inside, unusable⟩ := exists_firstUnusable_iff.mp ⟨reason, first⟩
    exact ⟨contents, placeholder, why, laid, inside, unusable⟩
  · rintro ⟨contents, placeholder, why, laid, inside, unusable⟩
    obtain ⟨reason, first⟩ := exists_firstUnusable_iff.mpr ⟨placeholder, why, inside, unusable⟩
    exact ⟨reason, expand_eq_error.mpr ⟨contents, laid, first⟩⟩

/-- Text that was put in is not looked at again, nor is a comment. -/
example :
    expand ⟨[("A", Text.Utf8.encodeString "\x7b\x7benv.B\x7d\x7d")]⟩
        "a = \x7b\x7b\x7b env.A \x7d\x7d\r\n # \x7b\x7b env.B \x7d\x7d\n" =
      .ok "a = \x7b\x7b\x7benv.B\x7d\x7d\n # \x7b\x7b env.B \x7d\x7d\n" := by
  decide +kernel

end FaultMesh.Expansion
