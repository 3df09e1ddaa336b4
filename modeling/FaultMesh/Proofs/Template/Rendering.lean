import FaultMesh.Proofs.Reporter.Disclosure
import FaultMesh.Proofs.Template.Grammar

/-!
# Rendering in parts

Two templates one behind the other are a template, which renders as the one behind the other,
unless a brace of each makes an opening pair where they meet.  Literal text renders as it is,
a look-up as the text of the value that it finds, and how the data are ordered tells in
nothing, nor does what is bound to null.
-/

set_option autoImplicit false

namespace FaultMesh.Template

section Segments
variable (data : Data)

theorem renderSegments_append (first second : List Segment) :
    renderSegments data (first ++ second) =
      renderSegments data first ++ renderSegments data second := by
  rw [renderSegments, List.map_append, String.join_append, renderSegments, renderSegments]

theorem renderSegments_cons (segment : Segment) (segments : List Segment) :
    renderSegments data (segment :: segments) =
      renderSegment data segment ++ renderSegments data segments := by
  have single : renderSegments data [segment] = renderSegment data segment :=
    String.empty_append
  rw [← List.singleton_append, renderSegments_append, single]

theorem renderSegments_literal (text : List Char) :
    renderSegments data (literalSegments text) = String.ofList text := by
  rw [literalSegments]
  cases text with
  | nil => rfl
  | cons c text => exact String.empty_append

end Segments

theorem Leads.append {b : Char} {first second : List Char} (clear : Clear b first)
    (leads : Leads b second)
    (seam : ¬ (first.getLast? = some b ∧ (second ++ [b]).head? = some b)) :
    Leads b (first ++ second) := by
  rw [leads_iff, List.append_assoc, clear_append]
  exact ⟨clear, leads_iff.mp leads, seam⟩

namespace Layout

theorem exists_append (first second : Layout)
    (seam : ¬ (first.text.getLast? = some '\x7b' ∧ second.text.head? = some '\x7b')) :
    ∃ whole : Layout, whole.text = first.text ++ second.text ∧
      whole.keys = first.keys ++ second.keys ∧
        ∀ data, renderSegments data whole.segments =
          renderSegments data first.segments ++ renderSegments data second.segments := by
  induction first with
  | last text clear =>
    cases second with
    | last other plain =>
      refine ⟨.last (text ++ other) (clear_append.mpr ⟨clear, plain, seam⟩), rfl, rfl, ?_⟩
      intro data
      simp only [segments, renderSegments_literal, String.ofList_append]
    | action other leads lookup rest =>
      have meet : ¬ (text.getLast? = some '\x7b' ∧ (other ++ ['\x7b']).head? = some '\x7b') := by
        cases other <;> exact seam
      refine ⟨.action (text ++ other) (leads.append clear meet) lookup rest, ?_, rfl, ?_⟩
      · simp only [Layout.text, List.append_assoc]
      · intro data
        simp only [segments, renderSegments_append, renderSegments_literal, String.ofList_append,
          String.append_assoc]
  | action text leads lookup rest ih =>
    have behind : ¬ (rest.text.getLast? = some '\x7b' ∧ second.text.head? = some '\x7b') := by
      rintro ⟨ends, starts⟩
      refine seam ⟨?_, starts⟩
      simp [Layout.text, List.getLast?_append, List.getLast?_cons, ends]
    obtain ⟨whole, same, keys, rendered⟩ := ih behind
    refine ⟨.action text leads lookup whole, ?_, ?_, ?_⟩
    · simp only [Layout.text, same, List.append_assoc, List.cons_append]
    · simp only [Layout.keys, keys, List.cons_append]
    · intro data
      simp only [segments, renderSegments_append, renderSegments_cons, rendered,
        String.append_assoc]

end Layout

section Templates
variable {template : Template} {layout : Layout}

theorem segments_eq (laidOut : layout.text = template.source.toList) :
    template.segments = layout.segments := by
  have compiled := template.compiled
  rw [layout.compile_eq_ok laidOut] at compiled
  exact (Except.ok.inj compiled).symm

theorem render_eq (laidOut : layout.text = template.source.toList) (data : Data) :
    template.render data = renderSegments data layout.segments := by
  rw [render, segments_eq laidOut]

theorem exists_layout (template : Template) : ∃ layout : Layout,
    layout.text = template.source.toList :=
  parse_succeeds_iff.mp ⟨template, parse_eq_ok_iff.mpr rfl⟩

theorem exists_template (layout : Layout) {source : String}
    (laidOut : layout.text = source.toList) :
    ∃ template, parse source = .ok template ∧ template.referencedKeys = layout.keys ∧
      ∀ data, template.render data = renderSegments data layout.segments :=
  ⟨_, parse_laidOut laidOut, Layout.referencedKeys_eq rfl, fun _ => rfl⟩

end Templates

theorem parse_append {before behind : String} {first second : Template}
    (one : parse before = .ok first) (two : parse behind = .ok second)
    (seam : ¬ (before.toList.getLast? = some '\x7b' ∧ behind.toList.head? = some '\x7b')) :
    ∃ whole, parse (before ++ behind) = .ok whole ∧
      whole.referencedKeys = first.referencedKeys ++ second.referencedKeys ∧
        ∀ data, whole.render data = first.render data ++ second.render data := by
  obtain rfl := parse_eq_ok_iff.mp one
  obtain rfl := parse_eq_ok_iff.mp two
  obtain ⟨left, leftText⟩ := first.exists_layout
  obtain ⟨right, rightText⟩ := second.exists_layout
  rw [← leftText, ← rightText] at seam
  obtain ⟨joined, text, keys, rendered⟩ := left.exists_append right seam
  rw [leftText, rightText, ← String.toList_append] at text
  obtain ⟨whole, parsed, wholeKeys, wholeRendered⟩ := exists_template joined text
  refine ⟨whole, parsed, ?_, ?_⟩
  · rw [wholeKeys, keys, Layout.referencedKeys_eq (segments_eq leftText),
      Layout.referencedKeys_eq (segments_eq rightText)]
  · intro data
    rw [wholeRendered, rendered, render_eq leftText, render_eq rightText]

theorem parse_plain {source : String} (clear : Clear '\x7b' source.toList) :
    ∃ template, parse source = .ok template ∧ ∀ data, template.render data = source := by
  obtain ⟨template, parsed, -, rendered⟩ := exists_template (.last _ clear) rfl
  refine ⟨template, parsed, fun data => ?_⟩
  rw [rendered, Layout.segments, renderSegments_literal, String.ofList_toList]

theorem parse_lookup (lookup : Lookup) :
    ∃ template,
      parse (String.ofList ('\x7b' :: '\x7b' :: (lookup.text ++ ['\x7d', '\x7d']))) =
        .ok template ∧
      ∀ data, template.render data =
        (((bound data (String.ofList lookup.key)).at? (lookup.path.map String.ofList)).map
          Datum.shown).getD "" := by
  have none : Leads '\x7b' [] := leads_of_not_mem List.not_mem_nil
  obtain ⟨template, parsed, -, rendered⟩ :=
    exists_template (.action [] none lookup (.last [] none.clear)) String.toList_ofList.symm
  refine ⟨template, parsed, fun data => ?_⟩
  rw [rendered, ← renderSegment_field]
  simp only [Layout.segments, renderSegments_append, renderSegments_cons, renderSegments_literal,
    String.ofList_nil, String.empty_append, String.append_empty]
  rfl

/-! ## Data -/

theorem bound_of_perm {data other : Data} {nulls : List (String × Datum)}
    (null : ∀ entry ∈ nulls, entry.2 = .null)
    (same : other.entries.Perm (data.entries ++ nulls)) (key : String) :
    bound other key = bound data key := by
  rw [bound, bound, OrderedMap.get?, OrderedMap.get?]
  cases found : List.lookup key data.entries with
  | some value =>
    have inside : (key, value) ∈ other.entries :=
      same.mem_iff.mpr (List.mem_append_left _ (Entries.mem_of_lookup found))
    rw [Entries.lookup_of_mem other.nodup inside]
  | none =>
    cases written : List.lookup key other.entries with
    | none => rfl
    | some value =>
      rcases List.mem_append.mp (same.mem_iff.mp (Entries.mem_of_lookup written)) with here | added
      · rw [Entries.lookup_of_mem data.nodup here] at found
        cases found
      · exact null _ added

/-- Rendering goes part by part.  Two templates one behind the other render as the one behind
the other, if no opening pair comes about where they meet.  A source without an opening pair
renders as itself, and a look-up alone as the text of what it finds, whatever that text is.
The order of the data and keys that are bound to null change nothing. -/
theorem render_by_parts :
    (∀ (before behind : String) (first second : Template),
        parse before = .ok first → parse behind = .ok second →
        ¬ (before.toList.getLast? = some '\x7b' ∧ behind.toList.head? = some '\x7b') →
        ∃ whole, parse (before ++ behind) = .ok whole ∧
          whole.referencedKeys = first.referencedKeys ++ second.referencedKeys ∧
          ∀ data, whole.render data = first.render data ++ second.render data) ∧
      (∀ source : String, ¬ ['\x7b', '\x7b'] <:+: source.toList →
        ∃ template, parse source = .ok template ∧ ∀ data, template.render data = source) ∧
      (∀ lookup : Lookup, ∃ template,
        parse (String.ofList ('\x7b' :: '\x7b' :: (lookup.text ++ ['\x7d', '\x7d']))) =
          .ok template ∧
        ∀ data, template.render data =
          (((bound data (String.ofList lookup.key)).at? (lookup.path.map String.ofList)).map
            Datum.shown).getD "") ∧
      ∀ (template : Template) (data other : Data) (nulls : List (String × Datum)),
        (∀ entry ∈ nulls, entry.2 = .null) → other.entries.Perm (data.entries ++ nulls) →
        template.render other = template.render data := by
  refine ⟨?_, fun source clear => parse_plain clear, parse_lookup, ?_⟩
  · intro before behind first second one two seam
    exact parse_append one two seam
  · intro template data other nulls null same
    exact template.render_congr fun key _ => bound_of_perm null same key

/-- A value that looks like a look-up, braces at the end of a template and at the beginning of
the next one, and the data in another order with a null among them. -/
theorem render_by_parts_braces :
    (∃ first second whole,
      parse "\x7b\x7b.Data.A\x7d\x7d\x7d" = .ok first ∧ parse "\x7b b" = .ok second ∧
      parse ("\x7b\x7b.Data.A\x7d\x7d\x7d" ++ "\x7b b") = .ok whole ∧
      whole.render (.ofList [("A", .text "\x7b\x7b.Data.B\x7d\x7d"), ("B", .text "b")]) =
        "\x7b\x7b.Data.B\x7d\x7d\x7d\x7b b" ∧
      whole.render
          (.ofList [("C", .null), ("B", .text "b"), ("A", .text "\x7b\x7b.Data.B\x7d\x7d")]) =
        whole.render (.ofList [("A", .text "\x7b\x7b.Data.B\x7d\x7d"), ("B", .text "b")])) ∧
      ∃ template, parse "a \x7b \x7d\x7d" = .ok template ∧
        template.render .empty = "a \x7b \x7d\x7d" := by
  obtain ⟨parts, plain, -, data⟩ := render_by_parts
  let first : Template :=
    ⟨"\x7b\x7b.Data.A\x7d\x7d\x7d", [.field ["A"], .literal "\x7d"], by rfl⟩
  let second : Template := ⟨"\x7b b", [.literal "\x7b b"], by rfl⟩
  have one : parse first.source = .ok first := parse_eq_ok_iff.mpr rfl
  have two : parse second.source = .ok second := parse_eq_ok_iff.mpr rfl
  obtain ⟨whole, parsed, -, rendered⟩ :=
    parts first.source second.source first second one two (by decide)
  refine ⟨⟨first, second, whole, one, two, parsed, ?_, ?_⟩, ?_⟩
  · rw [rendered]
    rfl
  · refine data whole _ _ [("C", .null)] (by simp) ?_
    exact List.reverse_perm
      [("A", Datum.text "\x7b\x7b.Data.B\x7d\x7d"), ("B", Datum.text "b"), ("C", Datum.null)]
  · obtain ⟨template, parsed, rendered⟩ := plain "a \x7b \x7d\x7d" (by decide)
    exact ⟨template, parsed, rendered .empty⟩

end FaultMesh.Template
