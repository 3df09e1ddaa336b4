import Mathlib.Tactic.MkIffOfInductiveProp
import FaultMesh.Proofs.Toml.Records
import FaultMesh.Registry.Source

/-!
# Definitions in a source

What the table of a definition has to say to be read, and what is read from it.  A table
describes at most one definition, apart from the code, which comes from its place.
-/

set_option autoImplicit false

namespace FaultMesh.Registry

open FaultMesh.Toml

/-- What a table says of a definition; `text` tells which values stand for texts.  The
source of a message has to be one that compiles, since the definition holds the template. -/
@[mk_iff]
structure Describes (text : Value → String → Prop) (entries : List (String × Value))
    (definition : Definition) : Prop where
  known : ∀ key ∈ Entries.keys entries,
    key ∈ ["status_code", "description", "message", "data"]
  status : ∃ value, List.lookup "status_code" entries = some value ∧
    IsStatus value definition.status
  description : Holds text "" (List.lookup "description" entries) definition.description
  messages : Holds (IsTable fun value template => text value template.source) .empty
    (List.lookup "message" entries) definition.messages
  data : Holds (IsTable text) .empty (List.lookup "data" entries) definition.data

theorem describes_code {text : Value → String → Prop} {entries : List (String × Value)}
    {definition : Definition} (code : String) :
    Describes text entries { definition with code } ↔ Describes text entries definition := by
  simp only [describes_iff]

section Unique
variable {text : Value → String → Prop}

theorem template_unique (single : ∀ value first second, text value first →
      text value second → first = second) (value : Value) (first second : Template)
    (one : text value first.source) (other : text value second.source) : first = second := by
  have parsed := Template.parse_eq_ok_iff.mpr (single value _ _ one other)
  rw [Template.parse_eq_ok_iff.mpr rfl] at parsed
  exact (Except.ok.inj parsed).symm

theorem Describes.unique (single : ∀ value first second, text value first →
      text value second → first = second) {entries : List (String × Value)}
    {first second : Definition} (one : Describes text entries first)
    (other : Describes text entries second) (code : first.code = second.code) :
    first = second := by
  obtain ⟨value, found, status⟩ := one.status
  obtain ⟨again, same, status'⟩ := other.status
  obtain rfl : value = again := Option.some.inj (found.symm.trans same)
  have statuses : first.status = second.status := isStatus_unique status status'
  have descriptions := holds_unique single one.description other.description
  have messages := holds_unique (isTable_unique (template_unique single)) one.messages other.messages
  have data := holds_unique (isTable_unique single) one.data other.data
  cases first
  cases second
  simp_all

end Unique

/-! ## Reading -/

theorem readTemplate_eq_ok {value : Value} {template : Template} :
    readTemplate value = .ok template ↔ IsString value template.source := by
  rw [readTemplate, bind_eq_ok]
  constructor
  · rintro ⟨source, read, compiled⟩
    rw [mapError_eq_ok, Template.parse_eq_ok_iff] at compiled
    exact compiled ▸ asText_eq_ok.mp read
  · intro is
    exact ⟨template.source, asText_eq_ok.mpr is,
      mapError_eq_ok.mpr (Template.parse_eq_ok_iff.mpr rfl)⟩

theorem definition_field {field : Toml.Field Definition} (inside : field ∈ definitionReader.fields)
    {value : Value} (keyed : value.Keyed) :
    field.name = "status_code" ∧ (∀ draft next, field.read draft value = .ok next ↔
        ∃ status, IsStatus value status ∧ next = { draft with status }) ∨
      field.name = "description" ∧ (∀ draft next, field.read draft value = .ok next ↔
        ∃ description, IsString value description ∧ next = { draft with description }) ∨
      field.name = "message" ∧ (∀ draft next, field.read draft value = .ok next ↔
        ∃ messages, IsTable (fun value template => IsString value template.source) value messages ∧
          next = { draft with messages }) ∨
      field.name = "data" ∧ (∀ draft next, field.read draft value = .ok next ↔
        ∃ data, IsTable IsString value data ∧ next = { draft with data }) := by
  simp only [definitionReader, List.mem_cons, List.not_mem_nil, or_false] at inside
  rcases inside with rfl | rfl | rfl | rfl
  · refine .inl ⟨rfl, fun draft next => ?_⟩
    simp only [bind_eq_ok, pure_eq_ok]
    constructor
    · rintro ⟨status, read, rfl⟩
      obtain ⟨rfl, small⟩ := asStatus_eq_ok.mp read
      refine ⟨UInt16.ofNat status, ?_, rfl⟩
      rw [IsStatus, UInt16.toNat_ofNat_of_lt' small]
    · rintro ⟨status, is, rfl⟩
      exact ⟨status.toNat, asStatus_eq_ok.mpr ⟨is, status.toNat_lt⟩, by simp⟩
  · refine .inr (.inl ⟨rfl, fun draft next => ?_⟩)
    simp only [bind_eq_ok, pure_eq_ok, asText_eq_ok]
  · refine .inr (.inr (.inl ⟨rfl, fun draft next => ?_⟩))
    simp only [bind_eq_ok, pure_eq_ok, asMap_eq_ok (fun _ _ => readTemplate_eq_ok) keyed]
  · refine .inr (.inr (.inr ⟨rfl, fun draft next => ?_⟩))
    simp only [bind_eq_ok, pure_eq_ok, asMap_eq_ok (fun _ _ => asText_eq_ok) keyed]

structure Writes (name : String) (value : Value) (draft next : Definition) : Prop where
  code : next.code = draft.code
  status : if name = "status_code" then IsStatus value next.status
    else next.status = draft.status
  description : if name = "description" then IsString value next.description
    else next.description = draft.description
  messages : if name = "message" then
      IsTable (fun value template => IsString value template.source) value next.messages
    else next.messages = draft.messages
  data : if name = "data" then IsTable IsString value next.data else next.data = draft.data

theorem writes_of_read (field : Toml.Field Definition) (inside : field ∈ definitionReader.fields)
    (value : Value) (keyed : value.Keyed) (draft next : Definition)
    (read : field.read draft value = .ok next) : Writes field.name value draft next := by
  rcases definition_field inside keyed with
    ⟨name, exact⟩ | ⟨name, exact⟩ | ⟨name, exact⟩ | ⟨name, exact⟩
  all_goals
    obtain ⟨found, is, rfl⟩ := (exact draft next).mp read
    rw [name]
    exact ⟨by simp, by simp [is], by simp [is], by simp [is], by simp [is]⟩

section Reading
variable {entries : List (String × Value)} {draft : Definition}

theorem describes_of_read (keyed : (Value.table entries).Keyed)
    (read : definitionReader.read .blank (.table entries) = .ok draft) :
    draft.code = "" ∧ Describes IsString entries draft := by
  obtain ⟨visited, required⟩ := RecordReader.read_table.mp read
  have status := RecordReader.holds_of_visit writes_of_read _ _ Writes.status keyed visited
  have present : "status_code" ∈ Entries.keys entries :=
    required _ List.mem_cons_self rfl
  obtain ⟨value, found⟩ := Entries.lookup_of_mem_keys present
  rw [found] at status
  refine ⟨?_, RecordReader.known_of_visit visited, ⟨value, found, status⟩, ?_, ?_, ?_⟩
  · apply RecordReader.kept_of_visit writes_of_read _ _ keyed.2 visited
    intro key inside value state next wrote
    exact wrote.code
  · exact RecordReader.holds_of_visit writes_of_read _ _ Writes.description keyed visited
  · exact RecordReader.holds_of_visit writes_of_read _ _ Writes.messages keyed visited
  · exact RecordReader.holds_of_visit writes_of_read _ _ Writes.data keyed visited

theorem able_of_describes (keyed : (Value.table entries).Keyed)
    (describes : Describes IsString entries draft) (entry : String × Value)
    (inside : entry ∈ entries) (field : Toml.Field Definition)
    (among : field ∈ definitionReader.fields) (name : field.name = entry.1)
    (state : Definition) : ∃ next, field.read state entry.2 = .ok next := by
  obtain ⟨key, value⟩ := entry
  have found := Entries.lookup_of_mem keyed.1 inside
  rcases definition_field among (Value.keyed_of_mem keyed.2 inside) with
    ⟨called, exact⟩ | ⟨called, exact⟩ | ⟨called, exact⟩ | ⟨called, exact⟩
  all_goals
    obtain rfl : key = _ := name.symm.trans called
  · obtain ⟨written, same, is⟩ := describes.status
    obtain rfl := Option.some.inj (found.symm.trans same)
    exact ⟨_, (exact state _).mpr ⟨_, is, rfl⟩⟩
  · have is := describes.description
    rw [found] at is
    exact ⟨_, (exact state _).mpr ⟨_, is, rfl⟩⟩
  · have is := describes.messages
    rw [found] at is
    exact ⟨_, (exact state _).mpr ⟨_, is, rfl⟩⟩
  · have is := describes.data
    rw [found] at is
    exact ⟨_, (exact state _).mpr ⟨_, is, rfl⟩⟩

theorem read_of_describes (keyed : (Value.table entries).Keyed)
    (describes : Describes IsString entries draft) :
    ∃ final, definitionReader.read .blank (.table entries) = .ok final := by
  obtain ⟨final, visited⟩ := RecordReader.visit_of_able describes.known
    (able_of_describes keyed describes)
  refine ⟨final, RecordReader.read_table.mpr ⟨visited, ?_⟩⟩
  intro field inside required
  obtain ⟨value, found, -⟩ := describes.status
  have first : field.name = "status_code" := by
    simp only [definitionReader, List.mem_cons, List.not_mem_nil, or_false] at inside
    rcases inside with rfl | rfl | rfl | rfl
    · rfl
    all_goals cases required
  exact first ▸ Entries.mem_keys_of_lookup found

theorem read_definition_iff (keyed : (Value.table entries).Keyed) :
    definitionReader.read .blank (.table entries) = .ok draft ↔
      draft.code = "" ∧ Describes IsString entries draft := by
  constructor
  · exact describes_of_read keyed
  · rintro ⟨code, describes⟩
    obtain ⟨final, read⟩ := read_of_describes keyed describes
    obtain ⟨blank, same⟩ := describes_of_read keyed read
    rwa [same.unique isString_unique describes (blank.trans code.symm)] at read

theorem describes_plain : Describes IsString (Value.plainEntries entries) draft ↔
    Describes IsTextual entries draft := by
  have text (value : Value) (written : String) :
      IsString value.plain written ↔ IsTextual value written := isString_plain
  have data (value : Value) (written : OrderedMap String) :
      IsTable IsString value.plain written ↔ IsTable IsTextual value written :=
    isTable_plain text
  have messages (value : Value) (written : OrderedMap Template) :
      IsTable (fun value template => IsString value template.source) value.plain written ↔
        IsTable (fun value template => IsTextual value template.source) value written :=
    isTable_plain fun value template => text value template.source
  simp only [describes_iff, keys_plainEntries, lookup_plainEntries, Option.map_eq_some_iff,
    exists_exists_and_eq_and, isStatus_plain, holds_map text, holds_map messages, holds_map data]

/-- A definition is read from every table that describes one, and from no other. -/
theorem readDefinition_eq_ok {code : String} {definition : Definition}
    (keyed : (Value.table entries).Keyed) : readDefinition code entries = .ok definition ↔
      definition.code = code ∧ Describes IsTextual entries definition := by
  have plain : (Value.table (Value.plainEntries entries)).Keyed := keyed_plain _ keyed
  rw [readDefinition]
  constructor
  · intro read
    split at read
    next draft found =>
      obtain rfl := Except.ok.inj read
      have describes := ((read_definition_iff plain).mp found).2
      exact ⟨rfl, (describes_code code).mpr (describes_plain.mp describes)⟩
    next => cases read
  · rintro ⟨rfl, describes⟩
    have blank := (describes_code "").mpr (describes_plain.mpr describes)
    rw [(read_definition_iff plain).mpr ⟨rfl, blank⟩]

end Reading

end FaultMesh.Registry
