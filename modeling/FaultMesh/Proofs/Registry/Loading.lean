import Mathlib.Computability.Primrec.List
import FaultMesh.Proofs.Registry.Definitions

/-!
# Loading a source

The loader takes in the places of a document in order: the tables of definitions, and what
stands where a table should.  It stops at the first place that it refuses, and otherwise
inserts the definitions one by one.
-/

set_option autoImplicit false

namespace FaultMesh.Registry

open FaultMesh.Toml

/-- What stands at a path of keys and leads no further: the table of a definition, or a
value that is no table. -/
inductive Place where
  | definition (path : List String) (entries : List (String × Value))
  | stray (path : List String)

namespace Place

def path : Place → List String
  | .definition path _ => path
  | .stray path => path

def Keyed : Place → Prop
  | .definition _ entries => (Value.table entries).Keyed
  | .stray _ => True

end Place

mutual

/-- Places of a value at a path, depth first and in the order of its tables. -/
def places (path : List String) : Value → List Place
  | .table entries =>
    if isDefinition entries then [.definition path entries] else placesBelow path entries
  | _ => [.stray path]

def placesBelow (above : List String) : List (String × Value) → List Place
  | [] => []
  | (key, value) :: entries => places (above ++ [key]) value ++ placesBelow above entries

end

mutual

theorem keyed_places : ∀ (value : Value) (path : List String), value.Keyed →
    ∀ place ∈ places path value, place.Keyed
  | .table entries, path, keyed, place, inside => by
    rw [places] at inside
    split at inside
    · obtain rfl := List.mem_singleton.mp inside
      exact keyed
    · exact keyed_placesBelow entries path keyed.2 place inside
  | .text _, _, _, _, inside | .integer _, _, _, _, inside | .real _, _, _, _, inside
  | .boolean _, _, _, _, inside | .moment _, _, _, _, inside | .list _, _, _, _, inside => by
    obtain rfl := List.mem_singleton.mp inside
    trivial

theorem keyed_placesBelow : ∀ (entries : List (String × Value)) (above : List String),
    Value.KeyedEntries entries → ∀ place ∈ placesBelow above entries, place.Keyed
  | [], _, _, _, inside => by cases inside
  | (key, value) :: entries, above, keyed, place, inside => by
    rcases List.mem_append.mp inside with here | behind
    · exact keyed_places value (above ++ [key]) keyed.1 place here
    · exact keyed_placesBelow entries above keyed.2 place behind

end

/-- The code of a path of keys, grown key by key. -/
def codeOf (path : List String) : String := path.foldl joinCode ""

theorem codeOf_append (path : List String) (key : String) :
    codeOf (path ++ [key]) = joinCode (codeOf path) key := by
  simp [codeOf]

theorem foldl_joinCode {key : String} (named : key ≠ "") (path : List String) :
    path.foldl joinCode key = ".".intercalate (key :: path) := by
  induction path generalizing key with
  | nil => simp
  | cons next path ih =>
    have joined : joinCode key next = key ++ ("." ++ next) := by
      rw [joinCode, if_neg named, String.append_assoc]
    have begun : key ++ ("." ++ next) ≠ "" := by simp
    rw [List.foldl_cons, joined, ih begun, String.intercalate_cons_append,
      String.intercalate_cons_append, String.intercalate_cons_cons, String.append_assoc]

theorem codeOf_eq_intercalate {path : List String} (named : path.head? ≠ some "") :
    codeOf path = ".".intercalate path := by
  cases path with
  | nil => rfl
  | cons key path =>
    have begun : key ≠ "" := by simpa using named
    rw [codeOf, List.foldl_cons, ← foldl_joinCode begun]
    rfl

mutual

theorem path_places : ∀ (value : Value) (path : List String),
    ∀ place ∈ places path value, path <+: place.path
  | .table entries, path, place, inside => by
    rw [places] at inside
    split at inside
    · obtain rfl := List.mem_singleton.mp inside
      exact List.prefix_rfl
    · obtain ⟨key, -, below⟩ := path_placesBelow entries path place inside
      exact (List.prefix_append path [key]).trans below
  | .text _, _, _, inside | .integer _, _, _, inside | .real _, _, _, inside
  | .boolean _, _, _, inside | .moment _, _, _, inside | .list _, _, _, inside => by
    obtain rfl := List.mem_singleton.mp inside
    exact List.prefix_rfl

theorem path_placesBelow : ∀ (entries : List (String × Value)) (above : List String),
    ∀ place ∈ placesBelow above entries, ∃ key ∈ Entries.keys entries,
      above ++ [key] <+: place.path
  | [], _, _, inside => by cases inside
  | (key, value) :: entries, above, place, inside => by
    rcases List.mem_append.mp inside with here | behind
    · exact ⟨key, List.mem_cons_self, path_places value (above ++ [key]) place here⟩
    · obtain ⟨other, among, below⟩ := path_placesBelow entries above place behind
      exact ⟨other, List.mem_cons_of_mem _ among, below⟩

end

theorem codeOf_place {entries : List (String × Value)} (named : "" ∉ Entries.keys entries)
    {place : Place} (inside : place ∈ placesBelow [] entries) :
    codeOf place.path = ".".intercalate place.path := by
  obtain ⟨key, among, rest, path⟩ := path_placesBelow entries [] place inside
  refine codeOf_eq_intercalate ?_
  rw [← path]
  intro empty
  obtain rfl : key = "" := by simpa using empty
  exact named among

namespace Loading

def take (loading : Loading) : Place → Loading
  | .definition path entries => loading.define (codeOf path) entries
  | .stray path => loading.stop (.invalidDefinition (codeOf path) notATable)

def takeAll (loading : Loading) : List Place → Loading
  | [] => loading
  | place :: others =>
    let loading := loading.take place
    if loading.failure.isSome then loading else loading.takeAll others

theorem takeAll_singleton (loading : Loading) (place : Place) :
    loading.takeAll [place] = loading.take place := by
  simp [takeAll]

theorem takeAll_append {loading : Loading} (free : loading.failure = none)
    (first second : List Place) : loading.takeAll (first ++ second) =
      if (loading.takeAll first).failure.isSome then loading.takeAll first
      else (loading.takeAll first).takeAll second := by
  induction first generalizing loading with
  | nil => simp [takeAll, free]
  | cons place first ih =>
    simp only [List.cons_append, takeAll]
    by_cases failed : (loading.take place).failure.isSome
    · simp only [if_pos failed]
    · simp only [if_neg failed]
      exact ih (by simpa using failed)

mutual

/-- The loader takes in the places of a document one after another. -/
theorem collect_eq_takeAll : ∀ (value : Value) (path : List String) {loading : Loading},
    loading.failure = none →
      loading.collect (codeOf path) value = loading.takeAll (places path value)
  | .table entries, path, loading, free => by
    rw [collect, places]
    split
    · rw [takeAll_singleton, take]
    · exact collectBelow_eq_takeAll entries path free
  | .text _, _, _, _ | .integer _, _, _, _ | .real _, _, _, _ | .boolean _, _, _, _
  | .moment _, _, _, _ | .list _, _, _, _ => by
    rw [collect, places, takeAll_singleton, take]
    all_goals simp

theorem collectBelow_eq_takeAll : ∀ (entries : List (String × Value)) (above : List String)
    {loading : Loading}, loading.failure = none →
      loading.collectBelow (codeOf above) entries = loading.takeAll (placesBelow above entries)
  | [], _, _, _ => rfl
  | (key, value) :: entries, above, loading, free => by
    rw [collectBelow, placesBelow, takeAll_append free, ← codeOf_append,
      collect_eq_takeAll value (above ++ [key]) free]
    cases failed : (loading.takeAll (places (above ++ [key]) value)).failure with
    | some reason => simp
    | none => simp [collectBelow_eq_takeAll entries above failed]

end

end Loading

/-! ## What is accepted and what is refused -/

/-- The definition that is read at a place, under a code that is valid. -/
def Accepted (text : Value → String → Prop) (place : Place) (definition : Definition) : Prop :=
  ∃ path entries, place = .definition path entries ∧ definition.code = codeOf path ∧
    Describes text entries definition ∧ Code.isValid (codeOf path) = true

/-- Why a place is refused, which is told with its code. -/
inductive Refused (text : Value → String → Prop) : Place → RegistryError → Prop
  | stray (path : List String) :
    Refused text (.stray path) (.invalidDefinition (codeOf path) notATable)
  | malformed (path : List String) (entries : List (String × Value)) (reason : String)
    (nothing : ∀ definition, ¬ Describes text entries definition) :
    Refused text (.definition path entries) (.invalidDefinition (codeOf path) reason)
  | misnamed (path : List String) (entries : List (String × Value)) (definition : Definition)
    (described : Describes text entries definition) (invalid : Code.isValid (codeOf path) = false) :
    Refused text (.definition path entries) (.invalidCode (codeOf path))

theorem not_accepted_of_refused {text : Value → String → Prop} {place : Place}
    {reason : RegistryError} (refused : Refused text place reason) (definition : Definition) :
    ¬ Accepted text place definition := by
  rintro ⟨path, entries, here, -, described, valid⟩
  cases refused with
  | stray => cases here
  | malformed _ _ _ nothing =>
    cases here
    exact nothing definition described
  | misnamed _ _ _ _ invalid =>
    cases here
    rw [valid] at invalid
    cases invalid

namespace Loading

/-- One place: its definition is inserted, or the loading stops with the reason. -/
theorem take_cases {loading : Loading} {place : Place} (keyed : place.Keyed) :
    (∃ definition, Accepted IsTextual place definition ∧
        loading.registry.insert definition = .ok (loading.take place).registry ∧
        (loading.take place).failure = loading.failure) ∨
      ∃ reason, Refused IsTextual place reason ∧ loading.take place = loading.stop reason := by
  cases place with
  | stray path => exact .inr ⟨_, .stray path, rfl⟩
  | definition path entries =>
    rw [take, define]
    cases read : readDefinition (codeOf path) entries with
    | ok definition =>
      obtain ⟨code, described⟩ := (readDefinition_eq_ok keyed).mp read
      cases valid : Code.isValid (codeOf path) with
      | true =>
        refine .inl ⟨definition, ⟨path, entries, rfl, code, described, valid⟩, ?_⟩
        simp [add, insert, code, valid]
      | false =>
        refine .inr ⟨_, .misnamed path entries definition described valid, ?_⟩
        simp [add, insert, code, valid]
    | error reason =>
      have nothing (definition : Definition) : ¬ Describes IsTextual entries definition := by
        intro described
        have found := (readDefinition_eq_ok keyed).mpr
          ⟨rfl, (describes_code (codeOf path)).mpr described⟩
        rw [read] at found
        cases found
      rw [readDefinition] at read
      split at read
      next => cases read
      next mismatch _ =>
        obtain rfl := Except.error.inj read
        exact .inr ⟨_, .malformed path entries _ nothing, rfl⟩

/-- All places: their definitions are inserted in order, or the first place that is refused
ends the loading. -/
theorem takeAll_cases {loading : Loading} {met : List Place} (keyed : ∀ place ∈ met, place.Keyed)
    (free : loading.failure = none) :
    (∃ definitions, List.Forall₂ (Accepted IsTextual) met definitions ∧
        definitions.foldlM insert loading.registry = .ok (loading.takeAll met).registry ∧
        (loading.takeAll met).failure = none) ∨
      ∃ before place after reason, met = before ++ place :: after ∧
        (∀ earlier ∈ before, ∃ definition, Accepted IsTextual earlier definition) ∧
        Refused IsTextual place reason ∧ (loading.takeAll met).failure = some reason := by
  induction met generalizing loading with
  | nil => exact .inl ⟨[], .nil, rfl, free⟩
  | cons place others ih =>
    rw [takeAll]
    rcases take_cases (keyed place List.mem_cons_self) with
      ⟨definition, accepted, inserted, kept⟩ | ⟨reason, refused, stopped⟩
    · rw [free] at kept
      simp only [kept, Option.isSome_none, Bool.false_eq_true, if_false]
      rcases ih (fun place inside => keyed place (List.mem_cons_of_mem _ inside)) kept with
        ⟨definitions, rest, loaded, done⟩ | ⟨before, last, after, reason, split, earlier, refused, failed⟩
      · refine .inl ⟨definition :: definitions, .cons accepted rest, ?_, done⟩
        rw [List.foldlM_cons, inserted]
        exact loaded
      · refine .inr ⟨place :: before, last, after, reason, by rw [split]; rfl, ?_, refused, failed⟩
        exact List.forall_mem_cons.mpr ⟨⟨definition, accepted⟩, earlier⟩
    · have failed : (loading.take place).failure = some reason := by rw [stopped]; rfl
      refine .inr ⟨[], place, others, reason, rfl, by simp, refused, ?_⟩
      simp [failed]

end Loading

/-! ## Sources -/

section Source
variable {source : String} {entries : List (String × Value)}

theorem loadSource_eq_takeAll (parsed : Toml.parse source = some entries)
    (fits : Value.entriesInRange entries = true) :
    loadSource source = Loading.start.takeAll (placesBelow [] entries) := by
  rw [loadSource, parsed, Option.filter_some, if_pos fits]
  exact Loading.collectBelow_eq_takeAll entries [] rfl

theorem loadSource_cases (parsed : Toml.parse source = some entries)
    (fits : Value.entriesInRange entries = true) :
    (∃ definitions registry, List.Forall₂ (Accepted IsTextual) (placesBelow [] entries) definitions ∧
        definitions.foldlM insert builtin = .ok registry ∧
        (loadSource source).result = .ok registry) ∨
      ∃ before place after reason, placesBelow [] entries = before ++ place :: after ∧
        (∀ earlier ∈ before, ∃ definition, Accepted IsTextual earlier definition) ∧
        Refused IsTextual place reason ∧ (loadSource source).result = .error reason := by
  have keyed := keyed_placesBelow entries [] (keyed_of_parse parsed).2
  have free : Loading.start.failure = none := rfl
  rw [loadSource_eq_takeAll parsed fits]
  rcases Loading.takeAll_cases keyed free with
    ⟨definitions, accepted, inserted, free⟩ | ⟨before, place, after, reason, split, rest, refused, failed⟩
  · exact .inl ⟨definitions, _, accepted, inserted, by rw [Loading.result, free]⟩
  · exact .inr ⟨before, place, after, reason, split, rest, refused, by rw [Loading.result, failed]⟩

/-- A document is loaded whole or not at all.  The codes are the paths of its definitions
with dots; it is loaded if and only if every place is accepted, which gives the definitions
inserted in their order, and otherwise the reason is that of the first place refused. -/
theorem loadSource_flattens (parsed : Toml.parse source = some entries)
    (fits : Value.entriesInRange entries = true) (named : "" ∉ Entries.keys entries) :
    (∀ place ∈ placesBelow [] entries, codeOf place.path = ".".intercalate place.path) ∧
      ((∃ registry, (loadSource source).result = .ok registry) ↔
        ∀ place ∈ placesBelow [] entries, ∃ definition, Accepted IsTextual place definition) ∧
      (∀ registry, (loadSource source).result = .ok registry →
        ∃ definitions,
          List.Forall₂ (Accepted IsTextual) (placesBelow [] entries) definitions ∧
            definitions.foldlM insert builtin = .ok registry) ∧
      (∀ reason, (loadSource source).result = .error reason →
        ∃ before place after, placesBelow [] entries = before ++ place :: after ∧
          (∀ earlier ∈ before, ∃ definition, Accepted IsTextual earlier definition) ∧
          Refused IsTextual place reason) := by
  refine ⟨fun place => codeOf_place named, ?_⟩
  rcases loadSource_cases parsed fits with
    ⟨definitions, registry, accepted, inserted, loaded⟩ |
    ⟨before, place, after, reason, split, earlier, refused, failed⟩
  · have all := (List.forall₂_and_left (p := fun place => ∃ definition,
      Accepted IsTextual place definition) _ _).mp
        (accepted.imp fun _ definition found => ⟨⟨definition, found⟩, found⟩)
    refine ⟨⟨fun _ => all.1, fun _ => ⟨registry, loaded⟩⟩, ?_, ?_⟩
    · intro other result
      obtain rfl := Except.ok.inj (loaded.symm.trans result)
      exact ⟨definitions, accepted, inserted⟩
    · intro reason result
      rw [loaded] at result
      cases result
  · refine ⟨⟨?_, ?_⟩, ?_, ?_⟩
    · rintro ⟨registry, result⟩
      rw [failed] at result
      cases result
    · intro all
      obtain ⟨definition, accepted⟩ := all place (by rw [split]; simp)
      exact absurd accepted (not_accepted_of_refused refused definition)
    · intro registry result
      rw [failed] at result
      cases result
    · intro other result
      obtain rfl := Except.error.inj (failed.symm.trans result)
      exact ⟨before, place, after, split, earlier, refused⟩

end Source

/-- A nested table, and a quoted key with a dot in it. -/
def quotedSource : String :=
  "[users.404.Missing]\nstatus_code = 404\n[\"users.500\".Down]\nstatus_code = 500\nmessage.en = \"Down\"\n"

def quotedEntries : List (String × Value) :=
  [("users", .table [("404", .table [("Missing", .table [("status_code", .integer 404)])])]),
   ("users.500", .table [("Down", .table
     [("status_code", .integer 500), ("message", .table [("en", .text "Down")])])])]

theorem parse_quotedSource : Toml.parse quotedSource = some quotedEntries := by
  -- the equations that open `List.lookup` here come with `Primrec.List`
  cbv

theorem Loading.result_of_free {loading : Loading} (free : loading.failure = none) :
    loading.result = .ok loading.registry := by
  rw [Loading.result, free]

theorem loaded_quotedSource :
    (loadSource quotedSource).result = .ok (loadSource quotedSource).registry :=
  Loading.result_of_free (by decide +kernel)

theorem loadSource_flattens_quoted :
    ∃ registry, (loadSource quotedSource).result = .ok registry ∧
      (∀ place ∈ placesBelow [] quotedEntries, codeOf place.path = ".".intercalate place.path) ∧
      (∀ place ∈ placesBelow [] quotedEntries, ∃ definition,
        Accepted IsTextual place definition) ∧
      ∃ definitions, List.Forall₂ (Accepted IsTextual) (placesBelow [] quotedEntries) definitions ∧
        definitions.foldlM insert builtin = .ok registry := by
  obtain ⟨codes, accepted, inserted, -⟩ :=
    loadSource_flattens parse_quotedSource (by decide +kernel) (by decide)
  exact ⟨_, loaded_quotedSource, codes, accepted.mp ⟨_, loaded_quotedSource⟩,
    inserted _ loaded_quotedSource⟩

def datedSource : String :=
  "[a.404.B]\nstatus_code = 404\ndescription = 1979-05-27\n"

/-- A date does for a text: a description that is a date is not refused. -/
theorem date_taken_for_text :
    ¬ ∀ source entries, Toml.parse source = some entries →
      Value.entriesInRange entries = true → "" ∉ Entries.keys entries →
        ((∃ registry, (loadSource source).result = .ok registry) ↔
          ∀ place ∈ placesBelow [] entries, ∃ definition, Accepted IsString place definition) := by
  intro all
  have parsed : Toml.parse datedSource = some
      [("a", .table [("404", .table [("B", .table
        [("status_code", .integer 404), ("description", .moment "1979-05-27")])])])] := by
    cbv
  have free : (loadSource datedSource).failure = none := by decide +kernel
  have loaded : (loadSource datedSource).result = .ok (loadSource datedSource).registry := by
    rw [Loading.result, free]
  obtain ⟨definition, path, entries, same, -, describes, -⟩ :=
    (all datedSource _ parsed (by decide +kernel) (by decide)).mp ⟨_, loaded⟩ _ List.mem_cons_self
  cases same
  cases describes.description

end FaultMesh.Registry
