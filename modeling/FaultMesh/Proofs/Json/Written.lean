import FaultMesh.Json.Node
import FaultMesh.Proofs.Json.Rereading

/-!
# Reading what was written

The text of a value is read as a tree that shows the value: strings and keys as they are,
lists and maps in their order, and each number as what its text is read as.  The induction
is on the value; the fuel of the parser is twice the text that is left.
-/

set_option autoImplicit false

namespace FaultMesh.Json

open FaultMesh.Text (Glyph)

mutual

/-- The tree is one that a value is read as. -/
def Shows : Datum → Node → Prop
  | .null, node => ∃ stop, node = .scalar .null stop
  | .boolean value, node => ∃ stop, node = .scalar (.boolean value) stop
  | .number value, node => ∃ numeral stop, node = .scalar (.number numeral) stop ∧
      numeral.number? = some (reread value)
  | .text value, node => ∃ stop, node = .scalar (.text (.ok value)) stop
  | .list items, node => ∃ start nodes, node = .list start nodes none ∧ ShowsItems items nodes
  | .map entries, node => ∃ start members, node = .object start members none ∧
      ShowsEntries entries members

def ShowsItems : List Datum → List Node → Prop
  | [], nodes => nodes = []
  | item :: items, nodes => ∃ node rest, nodes = node :: rest ∧ Shows item node ∧
      ShowsItems items rest

def ShowsEntries : List (String × Datum) → List (Except Problem String × Node) → Prop
  | [], members => members = []
  | (key, value) :: entries, members => ∃ node rest, members = (.ok key, node) :: rest ∧
      Shows value node ∧ ShowsEntries entries rest

end

/-- Written parts up to the closing bracket; a comma stands before each but the first. -/
def row (closing : Char) : Bool → List (List Char) → List Char
  | _, [] => [closing]
  | first, part :: others => (if first then [] else [',']) ++ (part ++ row closing false others)

theorem enclose_eq (opening closing : Char) (parts : List (List Char)) :
    enclose opening closing parts = opening :: row closing true parts := by
  have later (part : List Char) (others : List (List Char)) :
      (List.intersperse [','] (part :: others)).flatten ++ [closing] =
        part ++ row closing false others := by
    induction others generalizing part with
    | nil => simp [row]
    | cons next others ih => simp [row, ← ih]
  cases parts with
  | nil => rfl
  | cons part others => rw [enclose, later]; rfl

theorem ends_row {closing : Char} (bracket : closing = ']' ∨ closing = '\x7d')
    (parts : List (List Char)) (rest : List Glyph) :
    Ends (scalars (row closing false parts) ++ rest) := by
  cases parts with
  | nil => rcases bracket with rfl | rfl <;> simp [row, Ends]
  | cons part others => simp [row, Ends]

theorem skipSpace_scalar {c : Char} (visible : isSpace (.scalar c) = false) (offset : Nat)
    (rest : List Glyph) : skipSpace offset (.scalar c :: rest) = (offset, .scalar c :: rest) := by
  simp [skipSpace, visible]

section NextItem
variable (closing : Char) {c : Char} (endKind separatorKind : Problem.Kind) (first : Bool)
  (offset : Nat) (rest : List Glyph)

theorem nextItem_closed (visible : isSpace (.scalar closing) = false) :
    nextItem closing endKind separatorKind first offset
        (scalars (row closing first []) ++ rest) =
      .closed (offset + 1) rest := by
  simp [nextItem, row, skipSpace_scalar visible]

theorem nextItem_part (text : List Char) (others : List (List Char))
    (visible : isSpace (.scalar c) = false) (other : c ≠ closing) (bracket : ',' ≠ closing) :
    ∃ next, nextItem closing endKind separatorKind first offset
        (scalars (row closing first ((c :: text) :: others)) ++ rest) =
      .item next (scalars (c :: text) ++ (scalars (row closing false others) ++ rest)) := by
  cases first with
  | true =>
    refine ⟨offset, ?_⟩
    simp [nextItem, row, skipSpace_scalar visible, other]
  | false =>
    refine ⟨offset + 1, ?_⟩
    have comma : isSpace (.scalar ',') = false := by decide
    simp [nextItem, row, skipSpace_scalar comma, skipSpace_scalar visible, other, bracket]

end NextItem

theorem expectColon_written (offset : Nat) (rest : List Glyph) :
    expectColon offset (.scalar ':' :: rest) = .ok (offset + 1, rest) := by
  have colon : isSpace (.scalar ':') = false := by decide
  simp [expectColon, skipSpace_scalar colon]

theorem ne_of_isDigit {c d : Char} (digit : Text.isDigit c = true)
    (other : Text.isDigit d = false) : c ≠ d := by
  rintro rfl
  rw [digit] at other
  cases other

/-- A number begins with a character that begins nothing else. -/
theorem visible_of_digit {c : Char} (first : c = '-' ∨ Text.isDigit c = true) :
    isSpace (.scalar c) = false ∧ c ≠ ']' ∧ c ≠ '\x7d' ∧ c ≠ '[' ∧ c ≠ '\x7b' ∧ c ≠ '"' := by
  rcases first with rfl | digit
  · decide
  · have apart {d : Char} (other : Text.isDigit d = false) : c ≠ d := ne_of_isDigit digit other
    refine ⟨?_, apart (by decide), apart (by decide), apart (by decide), apart (by decide),
      apart (by decide)⟩
    simp [isSpace, apart (d := ' ') (by decide), apart (d := '\n') (by decide),
      apart (d := '\t') (by decide), apart (d := '\r') (by decide)]

/-- A value begins with a character that is neither white space nor a closing bracket. -/
theorem write_begins (value : Datum) :
    ∃ c text, write value = c :: text ∧ isSpace (.scalar c) = false ∧ c ≠ ']' ∧ c ≠ '\x7d' := by
  cases value with
  | null => exact ⟨_, _, rfl, by decide⟩
  | boolean value => cases value <;> exact ⟨_, _, rfl, by decide⟩
  | text value => exact ⟨_, _, rfl, by decide⟩
  | list items => exact ⟨_, _, rfl, by decide⟩
  | map entries => exact ⟨_, _, rfl, by decide⟩
  | number value =>
    obtain ⟨numeral, spells, -⟩ := spells_render value
    obtain ⟨c, text, same, first⟩ := spells.begins
    obtain ⟨visible, square, curly, -⟩ := visible_of_digit first
    exact ⟨c, text, same, visible, square, curly⟩

section Scalars
variable (fuel offset : Nat) (rest : List Glyph)

theorem parseNode_scalar {c : Char} {text : List Char} (visible : isSpace (.scalar c) = false)
    (square : c ≠ '[') (curly : c ≠ '\x7b') :
    parseNode (fuel + 1) offset (scalars (c :: text) ++ rest) =
      scalarNode offset (scalars (c :: text) ++ rest) := by
  simp [parseNode, skipSpace_scalar visible, square, curly]

theorem parseNode_text (text : String) :
    ∃ stop, parseNode (fuel + 1) offset (scalars (writeString text) ++ rest) =
      (.scalar (.text (.ok text)) stop, some (stop, rest)) := by
  obtain ⟨stop, scanned⟩ := scanString_written text.toList (offset + 1) [] rest
  refine ⟨stop, ?_⟩
  rw [writeString, parseNode_scalar _ _ _ (by decide) (by decide) (by decide)]
  simp [scalarNode, textNode, scanned]

theorem parseNode_number (value : Number) (ends : Ends rest) :
    ∃ numeral stop, parseNode (fuel + 1) offset (scalars value.render ++ rest) =
        (.scalar (.number numeral) stop, some (stop, rest)) ∧
      numeral.number? = some (reread value) := by
  obtain ⟨numeral, spells, read⟩ := spells_render value
  obtain ⟨c, text, same, first⟩ := spells.begins
  obtain ⟨visible, -, -, square, curly, quote⟩ := visible_of_digit first
  obtain ⟨stop, scanned⟩ := spells.scans offset rest ends
  refine ⟨numeral, stop, ?_, read⟩
  rw [same] at scanned ⊢
  rw [parseNode_scalar _ _ _ visible square curly]
  simp only [scalars_cons, List.cons_append] at scanned ⊢
  simp [scalarNode, quote, first, numberNode, scanned]

end Scalars

/-! ## Values -/

theorem length_row_cons (closing : Char) (first : Bool) (part : List Char)
    (others : List (List Char)) :
    part.length + (row closing false others).length ≤
      (row closing first (part :: others)).length := by
  cases first <;> simp [row]

theorem length_row_pos (closing : Char) (first : Bool) (parts : List (List Char)) :
    0 < (row closing first parts).length := by
  cases parts with
  | nil => simp [row]
  | cons part others =>
    have tail : 0 < (row closing false others).length := by
      induction others with
      | nil => simp [row]
      | cons part others ih => simp [row]
    have more := length_row_cons closing first part others
    omega

mutual

theorem parseNode_written : ∀ (value : Datum) (fuel offset : Nat) (rest : List Glyph),
    2 * (write value).length ≤ fuel → Ends rest →
      ∃ node stop, parseNode fuel offset (scalars (write value) ++ rest) =
        (node, some (stop, rest)) ∧ Shows value node
  | value, 0, _, _, enough, _ => by
    -- Something is written of every value, so there is fuel for it.
    obtain ⟨c, text, same, -⟩ := write_begins value
    rw [same, List.length_cons] at enough
    omega
  | .null, fuel + 1, offset, rest, _, _ => by
    refine ⟨.scalar .null (offset + 4), offset + 4, ?_, _, rfl⟩
    rw [write, parseNode_scalar _ _ _ (by decide) (by decide) (by decide)]
    rfl
  | .boolean true, fuel + 1, offset, rest, _, _ => by
    refine ⟨.scalar (.boolean true) (offset + 4), offset + 4, ?_, _, rfl⟩
    rw [write, parseNode_scalar _ _ _ (by decide) (by decide) (by decide)]
    rfl
  | .boolean false, fuel + 1, offset, rest, _, _ => by
    refine ⟨.scalar (.boolean false) (offset + 5), offset + 5, ?_, _, rfl⟩
    rw [write, parseNode_scalar _ _ _ (by decide) (by decide) (by decide)]
    rfl
  | .number value, fuel + 1, offset, rest, _, ends => by
    obtain ⟨numeral, stop, parsed, read⟩ := parseNode_number fuel offset rest value ends
    exact ⟨_, stop, parsed, numeral, stop, rfl, read⟩
  | .text value, fuel + 1, offset, rest, _, _ => by
    obtain ⟨stop, parsed⟩ := parseNode_text fuel offset rest value
    exact ⟨_, stop, parsed, stop, rfl⟩
  | .list items, fuel + 1, offset, rest, enough, _ => by
    rw [write, enclose_eq, List.length_cons] at enough
    obtain ⟨nodes, stop, parsed, shows⟩ :=
      parseItems_written items fuel true (offset + 1) rest (by omega)
    refine ⟨.list offset nodes none, stop, ?_, offset, nodes, rfl, shows⟩
    rw [write, enclose_eq]
    simp [parseNode, skipSpace, isSpace, parsed]
  | .map entries, fuel + 1, offset, rest, enough, _ => by
    rw [write, enclose_eq, List.length_cons] at enough
    obtain ⟨members, stop, parsed, shows⟩ :=
      parseMembers_written entries fuel true (offset + 1) rest (by omega)
    refine ⟨.object offset members none, stop, ?_, offset, members, rfl, shows⟩
    rw [write, enclose_eq]
    simp [parseNode, skipSpace, isSpace, parsed]

theorem parseItems_written : ∀ (items : List Datum) (fuel : Nat) (first : Bool) (offset : Nat)
    (rest : List Glyph), 2 * (row ']' first (writeItems items)).length ≤ fuel →
      ∃ nodes stop, parseItems fuel first offset
          (scalars (row ']' first (writeItems items)) ++ rest) =
        (nodes, none, some (stop, rest)) ∧ ShowsItems items nodes
  | items, 0, first, _, _, enough => by
    have some := length_row_pos ']' first (writeItems items)
    omega
  | [], fuel + 1, first, offset, rest, _ => by
    refine ⟨[], offset + 1, ?_, rfl⟩
    rw [parseItems, writeItems, nextItem_closed _ _ _ _ _ _ (by decide)]
  | item :: items, fuel + 1, first, offset, rest, enough => by
    obtain ⟨c, text, same, visible, square, -⟩ := write_begins item
    have size := length_row_cons ']' first (write item) (writeItems items)
    have tail := length_row_pos ']' false (writeItems items)
    have some : 0 < (write item).length := by simp [same]
    rw [writeItems] at enough
    obtain ⟨next, found⟩ := nextItem_part ']' .endInList .expectedListSeparator first offset
      rest text (writeItems items) visible square (by decide)
    rw [← same] at found
    obtain ⟨node, stop, parsed, shows⟩ := parseNode_written item fuel next
      (scalars (row ']' false (writeItems items)) ++ rest) (by omega) (ends_row (.inl rfl) _ _)
    obtain ⟨nodes, last, others, showsRest⟩ :=
      parseItems_written items fuel false stop rest (by omega)
    refine ⟨node :: nodes, last, ?_, node, nodes, rfl, shows, showsRest⟩
    rw [parseItems, writeItems, found]
    simp only [parsed, others]

theorem parseMembers_written : ∀ (entries : List (String × Datum)) (fuel : Nat) (first : Bool)
    (offset : Nat) (rest : List Glyph),
    2 * (row '\x7d' first (writeEntries entries)).length ≤ fuel →
      ∃ members stop, parseMembers fuel first offset
          (scalars (row '\x7d' first (writeEntries entries)) ++ rest) =
        (members, none, some (stop, rest)) ∧ ShowsEntries entries members
  | entries, 0, first, _, _, enough => by
    have some := length_row_pos '\x7d' first (writeEntries entries)
    omega
  | [], fuel + 1, first, offset, rest, _ => by
    refine ⟨[], offset + 1, ?_, rfl⟩
    rw [parseMembers, writeEntries, nextItem_closed _ _ _ _ _ _ (by decide)]
  | (key, value) :: entries, fuel + 1, first, offset, rest, enough => by
    have size := length_row_cons '\x7d' first (writeMember key (write value))
      (writeEntries entries)
    have tail := length_row_pos '\x7d' false (writeEntries entries)
    have member : (writeMember key (write value)).length =
        (key.toList.flatMap escapeChar).length + (write value).length + 3 := by
      simp [writeMember, writeString]
      omega
    rw [writeEntries] at enough
    obtain ⟨next, found⟩ := nextItem_part '\x7d' (c := '"') .endInObject .expectedObjectSeparator
      first offset rest (key.toList.flatMap escapeChar ++ '"' :: ':' :: write value)
      (writeEntries entries) (by decide) (by decide) (by decide)
    obtain ⟨behind, scanned⟩ := scanString_written key.toList (next + 1) []
      (scalars (':' :: write value) ++ (scalars (row '\x7d' false (writeEntries entries)) ++ rest))
    obtain ⟨node, stop, parsed, shows⟩ := parseNode_written value fuel (behind + 1)
      (scalars (row '\x7d' false (writeEntries entries)) ++ rest) (by omega)
      (ends_row (.inr rfl) _ _)
    obtain ⟨members, last, others, showsRest⟩ :=
      parseMembers_written entries fuel false stop rest (by omega)
    refine ⟨(.ok key, node) :: members, last, ?_, node, members, rfl, shows, showsRest⟩
    have text : writeMember key (write value) =
        '"' :: (key.toList.flatMap escapeChar ++ '"' :: ':' :: write value) := by
      simp [writeMember, writeString]
    rw [parseMembers, writeEntries, text, found]
    simp only [scalars_cons, scalars_append, List.cons_append, List.append_assoc] at scanned ⊢
    simp only [scanned, expectColon_written, parsed, others, List.reverse_nil, List.nil_append,
      String.ofList_toList]

end

end FaultMesh.Json
