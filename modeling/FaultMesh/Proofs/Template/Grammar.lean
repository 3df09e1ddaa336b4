import FaultMesh.Proofs.Template.Lookup
import FaultMesh.Proofs.Template.Pieces

/-!
# The grammar of templates

A template is literal text with look-ups between.  A source compiles exactly when it can be
laid out like that, in one way only, and its segments say what the layout says.  Any other
source is refused for the first action that is no look-up, or else for an opening pair of
braces that nothing closes.
-/

set_option autoImplicit false

namespace FaultMesh.Template

/-- Look-ups with literal text before each of them and at the end.  Literal text holds no
opening pair of braces, and before a look-up it does not end in an opening brace. -/
inductive Layout where
  | last (text : List Char) (clear : Clear '\x7b' text)
  | action (text : List Char) (leads : Leads '\x7b' text) (lookup : Lookup) (rest : Layout)

def literalSegments (text : List Char) : List Segment :=
  if text.isEmpty then [] else [.literal (String.ofList text)]

namespace Layout

def text : Layout → List Char
  | last text _ => text
  | action text _ lookup rest =>
    text ++ '\x7b' :: '\x7b' :: (lookup.text ++ '\x7d' :: '\x7d' :: rest.text)

def segments : Layout → List Segment
  | last text _ => literalSegments text
  | action text _ lookup rest =>
    literalSegments text ++ .field lookup.fieldPath :: rest.segments

def keys : Layout → List String
  | last _ _ => []
  | action _ _ lookup rest => String.ofList lookup.key :: rest.keys

def pieces : Layout → List Piece
  | last text _ => [.literal text]
  | action text _ lookup rest => .literal text :: .action lookup.text :: rest.pieces

theorem pieces_text (layout : Layout) : Template.pieces layout.text = layout.pieces := by
  induction layout with
  | last text clear => exact pieces_clear clear
  | action text leads lookup rest ih =>
    rw [Layout.text, pieces_paired leads lookup.leads_text, ih, pieces]

theorem text_injective {layout other : Layout} (same : layout.text = other.text) :
    layout = other := by
  have pieces : layout.pieces = other.pieces := by rw [← pieces_text, ← pieces_text, same]
  clear same
  induction layout generalizing other with
  | last text clear =>
    cases other with
    | last other clear => cases pieces; rfl
    | action other leads lookup rest => cases pieces
  | action text leads lookup rest ih =>
    cases other with
    | last other clear => cases pieces
    | action other leads twin others =>
      obtain ⟨literal, behind⟩ := List.cons.inj pieces
      obtain ⟨found, rests⟩ := List.cons.inj behind
      cases literal
      cases lookup.text_injective (Piece.action.inj found)
      cases ih rests
      rfl

theorem assemble_pieces (layout : Layout) (source : String) :
    assemble source layout.pieces = .ok layout.segments := by
  induction layout with
  | last text clear =>
    rw [pieces, segments, literalSegments, assemble]
    cases text <;> rfl
  | action text leads lookup rest ih =>
    rw [pieces, assemble, assemble, lookup.lookupPath?_text, ih, segments, literalSegments]
    cases text <;> rfl

theorem compile_eq_ok (layout : Layout) {source : String} (same : layout.text = source.toList) :
    compile source = .ok layout.segments := by
  rw [compile, ← same, pieces_text, assemble_pieces]

theorem filterMap_segments (layout : Layout) :
    (layout.segments.filterMap fun
      | .literal _ => none
      | .field path => path.head?) = layout.keys := by
  induction layout with
  | last text clear =>
    rw [segments, literalSegments]
    cases text <;> rfl
  | action text leads lookup rest ih =>
    rw [segments, literalSegments, List.filterMap_append, List.filterMap_cons, ih]
    cases text <;> rfl

theorem referencedKeys_eq {layout : Layout} {template : Template}
    (same : template.segments = layout.segments) : template.referencedKeys = layout.keys := by
  rw [referencedKeys, same]
  exact layout.filterMap_segments

end Layout

theorem isLookup_iff {action : List Char} : IsLookup action ↔ (lookupPath? action).isSome := by
  rw [Option.isSome_iff_exists]
  constructor
  · rintro ⟨lookup, rfl⟩
    exact ⟨lookup.fieldPath, lookup.lookupPath?_text⟩
  · rintro ⟨path, found⟩
    obtain ⟨lookup, text, -⟩ := lookupPath?_eq_some_iff.mp found
    exact ⟨lookup, text⟩

theorem lookupPath?_eq_none {action : List Char} (other : ¬ IsLookup action) :
    lookupPath? action = none := by
  simpa [isLookup_iff] using other

/-- Actions are look-ups up to a first one that is none. -/
theorem all_lookups_or_first (actions : List (List Char)) :
    (∀ action ∈ actions, IsLookup action) ∨
      ∃ good bad rest, actions = good ++ bad :: rest ∧ (∀ action ∈ good, IsLookup action) ∧
        ¬ IsLookup bad := by
  induction actions with
  | nil => exact .inl fun action none => absurd none List.not_mem_nil
  | cons action actions ih =>
    by_cases fine : IsLookup action
    · rcases ih with all | ⟨good, bad, rest, rfl, before, other⟩
      · exact .inl (List.forall_mem_cons.mpr ⟨fine, all⟩)
      · exact .inr ⟨action :: good, bad, rest, rfl, List.forall_mem_cons.mpr ⟨fine, before⟩, other⟩
    · exact .inr ⟨[], action, actions, rfl, fun _ none => absurd none List.not_mem_nil, fine⟩

/-- Look-ups alone are laid out, unless nothing closes the last opening pair. -/
theorem Scan.accepted {text : List Char} {actions : List (List Char)} (scan : Scan text actions)
    (fine : ∀ action ∈ actions, IsLookup action) (source : String) :
    (∃ layout : Layout, layout.text = text) ∨
      assemble source (pieces text) = .error (.unterminated source) := by
  induction scan with
  | @clear text clear => exact .inl ⟨.last text clear, rfl⟩
  | opened leads clear =>
    rw [pieces_opened leads clear]
    exact .inr rfl
  | @paired before action text actions leads nearest rest ih =>
    obtain ⟨⟨lookup, rfl⟩, others⟩ := List.forall_mem_cons.mp fine
    rcases ih others with ⟨layout, rfl⟩ | unterminated
    · exact .inl ⟨.action before leads lookup layout, rfl⟩
    · right
      rw [pieces_paired leads nearest, assemble, assemble, lookup.lookupPath?_text, unterminated]
      rfl

/-- The first action that is no look-up is what the source is refused for. -/
theorem Scan.refused {text bad : List Char} {good rest : List (List Char)}
    (scan : Scan text (good ++ bad :: rest)) (fine : ∀ action ∈ good, IsLookup action)
    (other : ¬ IsLookup bad) (source : String) :
    assemble source (pieces text) =
      .error (.unsupportedAction (String.ofList (Text.trim bad))) := by
  induction good generalizing text with
  | nil =>
    cases scan with
    | paired leads nearest scan =>
      rw [pieces_paired leads nearest, assemble, assemble, lookupPath?_eq_none other]
      rfl
  | cons action good ih =>
    obtain ⟨⟨lookup, rfl⟩, others⟩ := List.forall_mem_cons.mp fine
    cases scan with
    | paired leads nearest scan =>
      rw [pieces_paired leads nearest, assemble, assemble, lookup.lookupPath?_text,
        ih scan others]
      rfl

/-! ## Sources -/

theorem parse_eq_error_iff {source : String} {reason : TemplateError} :
    parse source = .error reason ↔ compile source = .error reason := by
  unfold parse
  split
  next segments compiled => simp [compiled]
  next refused => simp [refused]

theorem parse_laidOut {layout : Layout} {source : String} (same : layout.text = source.toList) :
    parse source = .ok ⟨source, layout.segments, layout.compile_eq_ok same⟩ :=
  parse_eq_ok_iff.mpr rfl

theorem parse_unlaid {source : String} (unlaid : ∀ layout : Layout, layout.text ≠ source.toList) :
    ∃ actions, (∀ others, Scan source.toList others ↔ others = actions) ∧
      ((∃ good bad rest, actions = good ++ bad :: rest ∧ (∀ action ∈ good, IsLookup action) ∧
          ¬ IsLookup bad ∧
          parse source = .error (.unsupportedAction (String.ofList (Text.trim bad)))) ∨
        (∀ action ∈ actions, IsLookup action) ∧ parse source = .error (.unterminated source)) := by
  obtain ⟨actions, scan⟩ := exists_scan source.toList
  refine ⟨actions, fun others => by rw [scan_iff, scan.actions_eq], ?_⟩
  rw [parse_eq_error_iff, compile]
  rcases all_lookups_or_first actions with all | ⟨good, bad, rest, rfl, fine, other⟩
  · rcases scan.accepted all source with ⟨layout, laidOut⟩ | unterminated
    · exact absurd laidOut (unlaid layout)
    · exact .inr ⟨all, unterminated⟩
  · refine .inl ⟨good, bad, rest, rfl, fine, other, ?_⟩
    rw [parse_eq_error_iff]
    exact scan.refused fine other source

theorem parse_succeeds_iff {source : String} :
    (∃ template, parse source = .ok template) ↔
      ∃ layout : Layout, layout.text = source.toList := by
  constructor
  · rintro ⟨template, parsed⟩
    refine Classical.byContradiction fun unlaid => ?_
    obtain ⟨actions, -, ⟨good, bad, rest, -, -, -, refused⟩ | ⟨-, refused⟩⟩ :=
      parse_unlaid (not_exists.mp unlaid)
    · rw [parsed] at refused
      cases refused
    · rw [parsed] at refused
      cases refused
  · rintro ⟨layout, laidOut⟩
    exact ⟨_, parse_laidOut laidOut⟩

/-- A source is a template exactly when it has a layout.  There is then only one, and the
template keeps the source and says what the layout says.  A source that has none is refused:
of the actions that its scan finds, for the first one that is no look-up, or else for an
opening pair of braces that nothing closes. -/
theorem parse_grammar (source : String) :
    ((∃ template, parse source = .ok template) ↔
        ∃ layout : Layout, layout.text = source.toList) ∧
      (∀ layout : Layout, layout.text = source.toList →
        (∀ other : Layout, other.text = source.toList → other = layout) ∧
          ∀ template, parse source = .ok template →
            template.source = source ∧ template.segments = layout.segments ∧
              template.referencedKeys = layout.keys) ∧
      ((∀ layout : Layout, layout.text ≠ source.toList) →
        ∃ actions, (∀ others, Scan source.toList others ↔ others = actions) ∧
          ((∃ good bad rest, actions = good ++ bad :: rest ∧
              (∀ action ∈ good, IsLookup action) ∧ ¬ IsLookup bad ∧
              parse source = .error (.unsupportedAction (String.ofList (Text.trim bad)))) ∨
            (∀ action ∈ actions, IsLookup action) ∧
              parse source = .error (.unterminated source))) := by
  refine ⟨parse_succeeds_iff, ?_, parse_unlaid⟩
  intro layout laidOut
  refine ⟨fun other twin => Layout.text_injective (twin.trans laidOut.symm), ?_⟩
  intro template parsed
  rw [parse_laidOut laidOut] at parsed
  obtain rfl := Except.ok.inj parsed
  exact ⟨rfl, rfl, Layout.referencedKeys_eq rfl⟩

/-- A look-up of two names with a brace behind it, and an opening pair alone. -/
theorem parse_grammar_braces :
    (∃ template, parse "a \x7b\x7b .Data.User.Name \x7d\x7d\x7d" = .ok template ∧
        template.segments = [.literal "a ", .field ["User", "Name"], .literal "\x7d"] ∧
          template.referencedKeys = ["User"]) ∧
      (∀ layout : Layout, layout.text ≠ "\x7b\x7b".toList) ∧
        parse "\x7b\x7b" = .error (.unterminated "\x7b\x7b") := by
  let lookup : Lookup :=
    { before := [' ']
      key := "User".toList
      path := ["Name".toList]
      after := [' ']
      blankBefore := Text.of_row (by decide)
      named := by simp only [← isName_iff]; decide +kernel
      blankAfter := Text.of_row (by decide) }
  let layout : Layout :=
    .action "a ".toList ⟨by decide, by decide⟩ lookup (.last ['\x7d'] (by decide))
  obtain ⟨succeeds, laidOut, -⟩ := parse_grammar "a \x7b\x7b .Data.User.Name \x7d\x7d\x7d"
  obtain ⟨template, parsed⟩ := succeeds.mpr ⟨layout, by decide⟩
  obtain ⟨-, segments, keys⟩ := (laidOut layout (by decide)).2 template parsed
  refine ⟨⟨template, parsed, segments, keys⟩, ?_⟩
  have none : ∀ layout : Layout, layout.text ≠ "\x7b\x7b".toList := by
    intro layout laidOut
    cases layout with
    | last text clear =>
      obtain rfl : text = "\x7b\x7b".toList := laidOut
      exact absurd clear (by decide)
    | action text leads lookup rest =>
      have length := congrArg List.length laidOut
      simp [Layout.text, Lookup.text, Lookup.core] at length
      omega
  refine ⟨none, ?_⟩
  obtain ⟨actions, scan, outcome⟩ := (parse_grammar "\x7b\x7b").2.2 none
  obtain rfl : [] = actions := (scan []).mp (scan_iff.mpr rfl)
  rcases outcome with ⟨good, bad, rest, found, -⟩ | ⟨-, refused⟩
  · simp at found
  · exact refused

end FaultMesh.Template
