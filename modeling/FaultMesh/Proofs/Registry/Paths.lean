import FaultMesh.Proofs.Code
import FaultMesh.Proofs.Registry.Collisions

/-!
# Paths of keys

Where the tables of definitions stand in a document, and what codes they get there: the keys
that lead to a table, with dots between them, from the first one on that is not empty.
-/

set_option autoImplicit false

namespace FaultMesh.Registry

open FaultMesh.Toml

/-- The table of a definition stands at the end of a path of keys, which leads through tables
that are none. -/
inductive DefinedAt : List (String × Value) → List String → List (String × Value) → Prop
  | top {entries table : List (String × Value)} {key : String}
    (inside : (key, .table table) ∈ entries) (defines : isDefinition table = true) :
    DefinedAt entries [key] table
  | deeper {entries inner table : List (String × Value)} {key : String} {path : List String}
    (inside : (key, .table inner) ∈ entries) (leads : isDefinition inner = false)
    (behind : DefinedAt inner path table) : DefinedAt entries (key :: path) table

section Places
variable {entries table : List (String × Value)} {path : List String}

theorem DefinedAt.cons (entry : String × Value) (defined : DefinedAt entries path table) :
    DefinedAt (entry :: entries) path table := by
  cases defined with
  | top inside defines => exact .top (List.mem_cons_of_mem _ inside) defines
  | deeper inside leads behind => exact .deeper (List.mem_cons_of_mem _ inside) leads behind

mutual

theorem definedAt_of_places : ∀ (value : Value) (above : List String),
    .definition path table ∈ places above value →
      value = .table table ∧ isDefinition table = true ∧ path = above ∨
        ∃ inner rest, value = .table inner ∧ isDefinition inner = false ∧
          DefinedAt inner rest table ∧ path = above ++ rest
  | .table entries, above, inside => by
    rw [places] at inside
    split at inside
    next defines =>
      obtain ⟨rfl, rfl⟩ := Place.definition.inj (List.mem_singleton.mp inside)
      exact .inl ⟨rfl, defines, rfl⟩
    next leads =>
      obtain ⟨rest, defined, whole⟩ := definedAt_of_placesBelow entries above inside
      exact .inr ⟨entries, rest, rfl, Bool.not_eq_true _ ▸ leads, defined, whole⟩
  | .text _, _, inside | .integer _, _, inside | .real _, _, inside | .boolean _, _, inside
  | .moment _, _, inside | .list _, _, inside => by
    cases List.mem_singleton.mp inside

theorem definedAt_of_placesBelow : ∀ (entries : List (String × Value)) (above : List String),
    .definition path table ∈ placesBelow above entries →
      ∃ rest, DefinedAt entries rest table ∧ path = above ++ rest
  | [], _, inside => by cases inside
  | (key, value) :: entries, above, inside => by
    rcases List.mem_append.mp inside with here | later
    · rcases definedAt_of_places value (above ++ [key]) here with
        ⟨rfl, defines, whole⟩ | ⟨inner, rest, rfl, leads, behind, whole⟩
      · exact ⟨[key], .top List.mem_cons_self defines, whole⟩
      · exact ⟨key :: rest, .deeper List.mem_cons_self leads behind, by simp [whole]⟩
    · obtain ⟨rest, defined, whole⟩ := definedAt_of_placesBelow entries above later
      exact ⟨rest, defined.cons _, whole⟩

end

theorem mem_placesBelow_of_mem {key : String} {value : Value} (inside : (key, value) ∈ entries)
    {above : List String} {place : Place} (found : place ∈ places (above ++ [key]) value) :
    place ∈ placesBelow above entries := by
  induction entries with
  | nil => cases inside
  | cons entry entries ih =>
    rw [placesBelow, List.mem_append]
    rcases List.mem_cons.mp inside with rfl | later
    · exact .inl found
    · exact .inr (ih later)

theorem DefinedAt.mem_placesBelow (defined : DefinedAt entries path table) (above : List String) :
    .definition (above ++ path) table ∈ placesBelow above entries := by
  induction defined generalizing above with
  | top inside defines =>
    refine mem_placesBelow_of_mem inside ?_
    rw [places, if_pos defines]
    exact List.mem_singleton_self _
  | @deeper entries inner table key path inside leads _ ih =>
    refine mem_placesBelow_of_mem inside ?_
    rw [places, if_neg (Bool.eq_false_iff.mp leads)]
    have found := ih (above ++ [key])
    rwa [List.append_assoc] at found

/-- The places of a document are where definitions stand in it. -/
theorem definedAt_iff : DefinedAt entries path table ↔
    .definition path table ∈ placesBelow [] entries := by
  constructor
  · exact fun defined => defined.mem_placesBelow []
  · intro inside
    obtain ⟨rest, defined, rfl⟩ := definedAt_of_placesBelow entries [] inside
    exact defined

end Places

/-- Empty keys at the beginning of a path leave no trace in its code. -/
theorem codeOf_eq_dropWhile (path : List String) :
    codeOf path = ".".intercalate (path.dropWhile (· = "")) := by
  induction path with
  | nil => rfl
  | cons key path ih =>
    by_cases empty : key = ""
    · rw [List.dropWhile_cons_of_pos (by simpa using empty), ← ih, empty]
      rfl
    · rw [List.dropWhile_cons_of_neg (by simpa using empty)]
      exact codeOf_eq_intercalate (by simpa using empty)

theorem not_consists_of_head {path : List String} (first : path.head? = some "")
    {component status reason : String} :
    ¬ Code.Consists (".".intercalate path) component status reason := by
  intro consists
  obtain ⟨rest, rfl⟩ := List.head?_eq_some_iff.mp first
  obtain ⟨c, others, begins, dotless⟩ := consists.begins
  cases rest with
  | nil => simp at begins
  | cons next rest =>
    rw [String.intercalate_cons_cons] at begins
    simp only [String.toList_append, String.toList_empty, List.nil_append] at begins
    exact dotless (List.cons.inj begins).1.symm

/-- A path with dots has the shape of a code, and is the code, exactly when its first key is not
empty. -/
theorem consists_path_iff {path : List String} {component status reason : String}
    (consists : Code.Consists (codeOf path) component status reason) :
    ((∃ owner number cause, Code.Consists (".".intercalate path) owner number cause) ↔
        path.head? ≠ some "") ∧
      (codeOf path = ".".intercalate path ↔ path.head? ≠ some "") := by
  constructor
  · constructor
    · rintro ⟨owner, number, cause, shaped⟩ first
      exact not_consists_of_head first shaped
    · intro named
      exact ⟨component, status, reason, codeOf_eq_intercalate named ▸ consists⟩
  · constructor
    · intro same first
      exact not_consists_of_head first (same ▸ consists)
    · exact codeOf_eq_intercalate

/-! ## Codes of a source -/

section Source
variable {source : String} {entries : List (String × Value)} {registry : Registry}

theorem definedAt_of_configured (parsed : Toml.parse source = some entries)
    (loaded : (loadSource source).result = .ok registry) {code : String} {definition : Definition}
    (configured : registry.configured.get? code = some definition) :
    definition.code = code ∧ ∃ path table, DefinedAt entries path table ∧
      Describes IsTextual table definition ∧ code = codeOf path := by
  obtain ⟨last, found, accepted⟩ := (configured_iff_last parsed loaded code definition).mp configured
  obtain ⟨inside, same⟩ := mem_of_lastWith? found
  refine ⟨accepted.code.trans same, ?_⟩
  obtain ⟨path, table, rfl, -, described, -⟩ := accepted
  exact ⟨path, table, definedAt_iff.mpr inside, described, same.symm⟩

theorem consists_of_definedAt (parsed : Toml.parse source = some entries)
    (loaded : (loadSource source).result = .ok registry) {path : List String}
    {table : List (String × Value)} (defined : DefinedAt entries path table) :
    ∃ component status reason, Code.Consists (codeOf path) component status reason := by
  obtain ⟨definition, _, _, same, -, -, valid⟩ :=
    accepted_of_place parsed loaded (definedAt_iff.mp defined)
  cases same
  exact Code.isValid_iff.mp valid

/-- The codes of a source are its paths.  What is configured under a code stands at a path whose
keys, with dots between them, are the code, from the first key on that is not empty; and every
definition in the source has a code of the right shape.  So a path with all its keys is the
code, and has that shape, if and only if its first key is not empty. -/
theorem loaded_codes (loaded : (loadSource source).result = .ok registry) :
    ∃ entries, Toml.parse source = some entries ∧
      (∀ code definition, registry.configured.get? code = some definition →
        definition.code = code ∧ ∃ path table, DefinedAt entries path table ∧
          Describes IsTextual table definition ∧
          code = ".".intercalate (path.dropWhile (· = "")) ∧
          (path.head? ≠ some "" → code = ".".intercalate path)) ∧
      ∀ path table, DefinedAt entries path table →
        (∃ component status reason,
          Code.Consists (".".intercalate (path.dropWhile (· = ""))) component status reason) ∧
        ((∃ component status reason,
          Code.Consists (".".intercalate path) component status reason) ↔ path.head? ≠ some "") ∧
        (".".intercalate (path.dropWhile (· = "")) = ".".intercalate path ↔
          path.head? ≠ some "") := by
  obtain ⟨entries, parsed⟩ := parsed_of_loaded loaded
  refine ⟨entries, parsed, ?_, ?_⟩
  · intro code definition configured
    obtain ⟨own, path, table, defined, described, same⟩ :=
      definedAt_of_configured parsed loaded configured
    exact ⟨own, path, table, defined, described, same.trans (codeOf_eq_dropWhile path),
      fun named => same.trans (codeOf_eq_intercalate named)⟩
  · intro path table defined
    obtain ⟨component, status, reason, consists⟩ := consists_of_definedAt parsed loaded defined
    rw [← codeOf_eq_dropWhile]
    exact ⟨⟨component, status, reason, consists⟩, consists_path_iff consists⟩

end Source

def gappedSource : String :=
  "[\"users.404\".\"\".Gone]\nstatus_code = 404\n"

theorem loaded_codes_gapped :
    ∃ entries definition path table, Toml.parse gappedSource = some entries ∧
      (loadSource gappedSource).registry.configured.get? "users.404..Gone" = some definition ∧
      definition.code = "users.404..Gone" ∧ DefinedAt entries path table ∧
      Describes IsTextual table definition ∧
      "users.404..Gone" = ".".intercalate (path.dropWhile (· = "")) := by
  have loaded : (loadSource gappedSource).result = .ok (loadSource gappedSource).registry :=
    Loading.result_of_free (by decide +kernel)
  obtain ⟨definition, configured⟩ := Option.isSome_iff_exists.mp
    (by decide +kernel : ((loadSource gappedSource).registry.configured.get?
      "users.404..Gone").isSome = true)
  obtain ⟨entries, parsed, codes, -⟩ := loaded_codes loaded
  obtain ⟨own, path, table, defined, described, code, -⟩ := codes _ _ configured
  exact ⟨entries, definition, path, table, parsed, configured, own, defined, described, code⟩

def ownerlessSource : String :=
  "[\"\".a.404.B]\nstatus_code = 404\n"

def ownerlessEntries : List (String × Value) :=
  [("", .table [("a", .table [("404", .table [("B", .table [("status_code", .integer 404)])])])])]

/-- An empty key at the top is lost from the codes of all that is below it. -/
theorem empty_key_lost :
    ¬ ∀ source entries registry, Toml.parse source = some entries →
      (loadSource source).result = .ok registry → ∀ code definition,
        registry.configured.get? code = some definition → ∃ path table,
          DefinedAt entries path table ∧ Describes IsTextual table definition ∧
            code = ".".intercalate path := by
  intro all
  have parsed : Toml.parse ownerlessSource = some ownerlessEntries := by
    cbv
  have loaded : (loadSource ownerlessSource).result = .ok (loadSource ownerlessSource).registry :=
    Loading.result_of_free (by decide +kernel)
  obtain ⟨definition, configured⟩ := Option.isSome_iff_exists.mp
    (by decide +kernel : ((loadSource ownerlessSource).registry.configured.get?
      "a.404.B").isSome = true)
  obtain ⟨path, table, defined, -, code⟩ := all _ _ _ parsed loaded _ _ configured
  -- the only table of the source stands at the path with the empty key
  have inside := List.mem_singleton.mp (definedAt_iff.mp defined)
  obtain ⟨rfl, rfl⟩ := Place.definition.inj inside
  exact absurd code (by decide +kernel)

end FaultMesh.Registry
