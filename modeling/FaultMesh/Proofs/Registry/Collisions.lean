import Mathlib.Data.Finset.Dedup
import FaultMesh.Proofs.Registry.Merged

/-!
# Tables of one code

Different paths of keys may have the same code, as `["users.404".Missing]` and
`[users.404.Missing]` do.  Every table writes the definition of its code, so that the last
table of a code is the one that counts.  A source in which no two tables share a code loses
nothing.
-/

set_option autoImplicit false

namespace FaultMesh.Registry

open FaultMesh.Toml

def lastWith? (code : String) (met : List Place) : Option Place :=
  (met.filter fun place => codeOf place.path == code).getLast?

theorem lastWith?_cons (code : String) (place : Place) (met : List Place) :
    lastWith? code (place :: met) =
      (lastWith? code met).or (if codeOf place.path = code then some place else none) := by
  by_cases named : codeOf place.path = code
  · cases later : lastWith? code met with
    | none =>
      rw [lastWith?] at later
      simp [lastWith?, named, List.getLast?_cons, later]
    | some last =>
      rw [lastWith?] at later
      simp [lastWith?, named, List.getLast?_cons, later]
  · simp [lastWith?, named]

theorem lastWith?_isSome {met : List Place} {place : Place} (inside : place ∈ met) :
    ∃ last, lastWith? (codeOf place.path) met = some last := by
  refine Option.ne_none_iff_exists'.mp fun none => ?_
  rw [lastWith?, List.getLast?_eq_none_iff, List.filter_eq_nil_iff] at none
  exact none place inside (beq_self_eq_true _)

theorem mem_of_lastWith? {code : String} {met : List Place} {last : Place}
    (found : lastWith? code met = some last) : last ∈ met ∧ codeOf last.path = code := by
  have inside := List.mem_of_getLast? found
  rw [List.mem_filter, beq_iff_eq] at inside
  exact inside

theorem isTextual_unique (value : Value) (first second : String) (one : IsTextual value first)
    (other : IsTextual value second) : first = second :=
  isString_unique value.plain first second (isString_plain.mpr one) (isString_plain.mpr other)

theorem Accepted.unique {place : Place} {first second : Definition}
    (one : Accepted IsTextual place first) (other : Accepted IsTextual place second) :
    first = second := by
  obtain ⟨path, entries, rfl, code, described, -⟩ := one
  obtain ⟨_, _, same, code', described', -⟩ := other
  cases same
  exact described.unique isTextual_unique described' (code.trans code'.symm)

theorem Accepted.code {text : Value → String → Prop} {place : Place} {definition : Definition}
    (accepted : Accepted text place definition) : definition.code = codeOf place.path := by
  obtain ⟨path, entries, rfl, code, -⟩ := accepted
  exact code

theorem rel_or {α β : Type} {related : α → β → Prop} {a c : Option α} {b d : Option β}
    (first : Option.Rel related a b) (second : Option.Rel related c d) :
    Option.Rel related (a.or c) (b.or d) := by
  cases first with
  | some both => exact .some both
  | none => exact second

theorem rel_eq_some_iff {α β : Type} {related : α → β → Prop} {a : Option α} {b : Option β}
    (both : Option.Rel related a b) (single : ∀ x y z, related x y → related x z → y = z)
    {y : β} : b = some y ↔ ∃ x, a = some x ∧ related x y := by
  cases both with
  | none => simp
  | some here =>
    simp only [Option.some.injEq, exists_eq_left']
    exact ⟨fun same => same ▸ here, single _ _ _ here⟩

theorem Accepted.status {text : Value → String → Prop} {path : List String}
    {entries : List (String × Value)} {definition : Definition}
    (accepted : Accepted text (.definition path entries) definition) :
    ∃ value, List.lookup "status_code" entries = some value ∧
      IsStatus value definition.status := by
  obtain ⟨_, _, same, -, described, -⟩ := accepted
  cases same
  exact described.status

theorem lastWith?_accepted {text : Value → String → Prop} {met : List Place}
    {definitions : List Definition} (accepted : List.Forall₂ (Accepted text) met definitions)
    (code : String) :
    Option.Rel (Accepted text) (lastWith? code met) (List.lookup code
      (definitions.map fun definition => (definition.code, definition)).reverse) := by
  induction accepted with
  | nil => exact .none
  | @cons place definition met definitions head rest ih =>
    have one : Option.Rel (Accepted text) (if codeOf place.path = code then some place else none)
        (List.lookup code [(definition.code, definition)]) := by
      rw [Entries.lookup_cons_ite, head.code]
      split
      · exact .some head
      · exact .none
    rw [List.map_cons, List.reverse_cons, List.lookup_append, lastWith?_cons]
    exact rel_or ih one

/-! ## All tables of a source -/

theorem entries_insertAll {definitions : List Definition} {start registry : Registry}
    (inserted : definitions.foldlM insert start = .ok registry) :
    registry.configured.entries =
      (definitions.map fun definition => (definition.code, definition)).foldl
        (fun entries (key, value) => Entries.insert key value entries)
        start.configured.entries := by
  induction definitions generalizing start with
  | nil =>
    obtain rfl := Except.ok.inj inserted
    rfl
  | cons definition definitions ih =>
    obtain ⟨next, first, rest⟩ := bind_eq_ok.mp inserted
    obtain ⟨-, rfl⟩ := insert_eq_ok.mp first
    exact ih rest

/-- Some texts are as many as the different ones among them exactly when none is repeated. -/
theorem length_distinct_iff {all distinct : List String} (nodup : distinct.Nodup)
    (same : ∀ text, text ∈ distinct ↔ text ∈ all) :
    distinct.length = all.length ↔ all.Nodup := by
  have perm : distinct.Perm all.dedup :=
    (List.perm_ext_iff_of_nodup nodup all.nodup_dedup).mpr (by simpa using same)
  rw [perm.length_eq, (List.dedup_sublist all).length_eq, List.dedup_eq_self]

section Source
variable {source : String} {entries : List (String × Value)} {registry : Registry}

theorem parsed_of_loaded (loaded : (loadSource source).result = .ok registry) :
    ∃ entries, Toml.parse source = some entries := by
  refine Option.ne_none_iff_exists'.mp fun none => ?_
  rw [loadSource, none] at loaded
  cases loaded

theorem loaded_accepted (parsed : Toml.parse source = some entries)
    (loaded : (loadSource source).result = .ok registry) :
    ∃ definitions, List.Forall₂ (Accepted IsTextual) (placesBelow [] entries) definitions ∧
      definitions.foldlM insert builtin = .ok registry := by
  have fits : Value.entriesInRange entries = true := by
    refine Decidable.byContradiction fun wide => ?_
    rw [loadSource, parsed, Option.filter_some, if_neg wide] at loaded
    cases loaded
  rcases loadSource_cases parsed fits with
    ⟨definitions, other, accepted, inserted, result⟩ | ⟨_, _, _, _, _, _, _, failed⟩
  · obtain rfl := Except.ok.inj (loaded.symm.trans result)
    exact ⟨definitions, accepted, inserted⟩
  · rw [loaded] at failed
    cases failed

/-- The places of a source whose codes are not builtin. -/
def tables (entries : List (String × Value)) : List Place :=
  (placesBelow [] entries).filter fun place => (Builtin.ofCode? (codeOf place.path)).isNone

theorem codes_tables (entries : List (String × Value)) :
    (tables entries).map (fun table => codeOf table.path) =
      ((placesBelow [] entries).map fun place => codeOf place.path).filter
        fun code => (Builtin.ofCode? code).isNone := by
  rw [List.filter_map]
  rfl

theorem lastWith?_tables {code : String} (other : Builtin.ofCode? code = none) :
    lastWith? code (tables entries) = lastWith? code (placesBelow [] entries) := by
  rw [lastWith?, lastWith?, tables, List.filter_filter]
  congr 1
  refine List.filter_congr fun place _ => ?_
  by_cases named : codeOf place.path = code
  · simp [named, other]
  · simp [named]

/-- What is configured under a code is what the last place with that code says. -/
theorem configured_iff_last (parsed : Toml.parse source = some entries)
    (loaded : (loadSource source).result = .ok registry) (code : String)
    (definition : Definition) :
    registry.configured.get? code = some definition ↔
      ∃ last, lastWith? code (placesBelow [] entries) = some last ∧
        Accepted IsTextual last definition := by
  obtain ⟨definitions, accepted, inserted⟩ := loaded_accepted parsed loaded
  have found : registry.configured.get? code = List.lookup code
      (definitions.map fun definition => (definition.code, definition)).reverse := by
    rw [OrderedMap.get?, entries_insertAll inserted, Entries.lookup_foldl]
    exact Option.or_none
  rw [found]
  exact rel_eq_some_iff (lastWith?_accepted accepted code) fun _ _ _ => Accepted.unique

theorem getDefinition_iff_last (parsed : Toml.parse source = some entries)
    (loaded : (loadSource source).result = .ok registry) {code : String}
    (other : Builtin.ofCode? code = none) (definition : Definition) :
    registry.getDefinition code = some definition ↔
      ∃ last, lastWith? code (tables entries) = some last ∧
        Accepted IsTextual last definition := by
  rw [getDefinition_of_none registry other, lastWith?_tables other]
  exact configured_iff_last parsed loaded code definition

theorem accepted_of_place (parsed : Toml.parse source = some entries)
    (loaded : (loadSource source).result = .ok registry) {place : Place}
    (inside : place ∈ placesBelow [] entries) :
    ∃ definition, Accepted IsTextual place definition := by
  obtain ⟨definitions, accepted, -⟩ := loaded_accepted parsed loaded
  have all := (List.forall₂_and_left (p := fun place => ∃ definition,
    Accepted IsTextual place definition) _ _).mp
      (accepted.imp fun _ definition found => ⟨⟨definition, found⟩, found⟩)
  exact all.1 place inside

theorem accepted_of_mem (parsed : Toml.parse source = some entries)
    (loaded : (loadSource source).result = .ok registry) {table : Place}
    (inside : table ∈ tables entries) :
    ∃ definition, Accepted IsTextual table definition :=
  accepted_of_place parsed loaded (List.mem_filter.mp inside).1

theorem other_of_mem {table : Place} (inside : table ∈ tables entries) :
    Builtin.ofCode? (codeOf table.path) = none := by
  simpa using (List.mem_filter.mp inside).2

/-- Every table is found under its code exactly when tables of one code say the same. -/
theorem tables_found_iff (parsed : Toml.parse source = some entries)
    (loaded : (loadSource source).result = .ok registry) :
    (∀ table ∈ tables entries, ∃ definition, Accepted IsTextual table definition ∧
        registry.getDefinition (codeOf table.path) = some definition) ↔
      ∀ first ∈ tables entries, ∀ second ∈ tables entries,
        codeOf first.path = codeOf second.path →
          ∃ definition, Accepted IsTextual first definition ∧
            Accepted IsTextual second definition := by
  constructor
  · intro all first here second there same
    obtain ⟨one, accepted, found⟩ := all first here
    obtain ⟨other, accepted', found'⟩ := all second there
    rw [same, found'] at found
    obtain rfl := Option.some.inj found
    exact ⟨other, accepted, accepted'⟩
  · intro agree table inside
    obtain ⟨last, found⟩ := lastWith?_isSome inside
    obtain ⟨among, same⟩ := mem_of_lastWith? found
    obtain ⟨definition, accepted, accepted'⟩ := agree table inside last among same.symm
    refine ⟨definition, accepted, ?_⟩
    rw [getDefinition_iff_last parsed loaded (other_of_mem inside)]
    exact ⟨last, found, accepted'⟩

theorem length_tables_iff (parsed : Toml.parse source = some entries)
    (loaded : (loadSource source).result = .ok registry) :
    (registry.codes.drop 15).length = (tables entries).length ↔
      ((tables entries).map fun table => codeOf table.path).Nodup := by
  have written := (Origin.source parsed loaded).written.keys
  have configured : registry.codes.drop 15 =
      registry.configured.keys.filter fun code => (Builtin.ofCode? code).isNone :=
    List.drop_left' rfl
  have same (code : String) : code ∈ registry.codes.drop 15 ↔
      code ∈ (tables entries).map fun table => codeOf table.path := by
    rw [configured, written, codes_tables, List.mem_filter, List.mem_filter, List.mem_eraseDups]
  rw [← length_distinct_iff ((codes_nodup registry).sublist (List.drop_sublist 15 _)) same,
    List.length_map]

/-- What is found of the tables of a source.  Under each of their codes it is what the last
table of that code says.  So no table is lost if and only if tables that share a code say
the same, and there is a code for each table if and only if no two of them share one. -/
theorem loaded_tables (parsed : Toml.parse source = some entries)
    (loaded : (loadSource source).result = .ok registry) :
    (∀ table ∈ tables entries, ∃ definition, Accepted IsTextual table definition) ∧
      (∀ code definition, Builtin.ofCode? code = none →
        (registry.getDefinition code = some definition ↔
          ∃ last, lastWith? code (tables entries) = some last ∧
            Accepted IsTextual last definition)) ∧
      ((∀ table ∈ tables entries, ∃ definition, Accepted IsTextual table definition ∧
          registry.getDefinition (codeOf table.path) = some definition) ↔
        ∀ first ∈ tables entries, ∀ second ∈ tables entries,
          codeOf first.path = codeOf second.path →
            ∃ definition, Accepted IsTextual first definition ∧
              Accepted IsTextual second definition) ∧
      ((registry.codes.drop 15).length = (tables entries).length ↔
        ((tables entries).map fun table => codeOf table.path).Nodup) := by
  refine ⟨fun table => accepted_of_mem parsed loaded, ?_, ?_, ?_⟩
  · intro code definition other
    exact getDefinition_iff_last parsed loaded other definition
  · exact tables_found_iff parsed loaded
  · exact length_tables_iff parsed loaded

end Source

/-- Two tables with codes of their own: both are found, and there are no more codes. -/
theorem loaded_tables_quoted :
    (∀ table ∈ tables quotedEntries, ∃ definition, Accepted IsTextual table definition ∧
        (loadSource quotedSource).registry.getDefinition (codeOf table.path) = some definition) ∧
      ((loadSource quotedSource).registry.codes.drop 15).length = 2 := by
  obtain ⟨accepted, -, found, count⟩ := loaded_tables parse_quotedSource loaded_quotedSource
  have distinct : ((tables quotedEntries).map fun table => codeOf table.path).Nodup := by
    decide +kernel
  refine ⟨found.mpr ?_, count.mpr distinct⟩
  intro first here second there same
  obtain rfl := List.inj_on_of_nodup_map distinct here there same
  obtain ⟨definition, described⟩ := accepted first here
  exact ⟨definition, described, described⟩

/-- A quoted key and a nested table that lead to the same code. -/
def doubledSource : String :=
  "[\"a.404.B\"]\nstatus_code = 404\n[a.404.B]\nstatus_code = 410\n"

def doubledEntries : List (String × Value) :=
  [("a.404.B", .table [("status_code", .integer 404)]),
   ("a", .table [("404", .table [("B", .table [("status_code", .integer 410)])])])]

/-- A table is lost when a later one has its code. -/
theorem earlier_table_lost :
    ¬ ∀ source entries registry, Toml.parse source = some entries →
      (loadSource source).result = .ok registry → ∀ table ∈ tables entries, ∀ definition,
        Accepted IsTextual table definition →
          registry.getDefinition (codeOf table.path) = some definition := by
  intro all
  have parsed : Toml.parse doubledSource = some doubledEntries := by
    cbv
  have loaded : (loadSource doubledSource).result = .ok (loadSource doubledSource).registry :=
    Loading.result_of_free (by decide +kernel)
  have quoted : Place.definition ["a.404.B"] [("status_code", .integer 404)] ∈
      tables doubledEntries :=
    List.mem_filter.mpr ⟨List.mem_cons_self, by decide +kernel⟩
  have nested : Place.definition ["a", "404", "B"] [("status_code", .integer 410)] ∈
      tables doubledEntries :=
    List.mem_filter.mpr ⟨List.mem_cons_of_mem _ List.mem_cons_self, by decide +kernel⟩
  obtain ⟨first, accepted⟩ := accepted_of_mem parsed loaded quoted
  obtain ⟨second, accepted'⟩ := accepted_of_mem parsed loaded nested
  have found := all _ _ _ parsed loaded _ quoted first accepted
  have found' := all _ _ _ parsed loaded _ nested second accepted'
  have same : codeOf ["a", "404", "B"] = codeOf ["a.404.B"] := by decide +kernel
  simp only [Place.path] at found found'
  rw [same, found] at found'
  obtain rfl := Option.some.inj found'
  -- one definition would have the statuses of both tables
  have status := accepted.status
  have status' := accepted'.status
  simp only [Entries.lookup_cons_ite, if_true, Option.some.injEq, exists_eq_left', IsStatus]
    at status status'
  have differ := Value.integer.inj (status.trans status'.symm)
  omega

end FaultMesh.Registry
