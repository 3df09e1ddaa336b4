import Mathlib.Data.Finset.Card
import FaultMesh.Proofs.Registry.Loading

/-!
# The merged view

Look-up, enumeration and counting of codes agree in every registry, whatever was written to
it and in whatever order: builtin codes come first and keep their definitions, configured
ones follow in the order in which they were first written.
-/

set_option autoImplicit false

namespace FaultMesh

namespace Builtin

theorem mem_all (builtin : Builtin) : builtin ∈ all := by
  cases builtin <;> decide

theorem ofCode?_code (builtin : Builtin) : ofCode? builtin.code = some builtin := by
  cases builtin <;> decide

theorem ofCode?_eq_some_iff {code : String} {builtin : Builtin} :
    ofCode? code = some builtin ↔ builtin.code = code := by
  constructor
  · intro found
    simpa using List.find?_some found
  · rintro rfl
    exact ofCode?_code builtin

theorem ofCode?_eq_none_iff {code : String} :
    ofCode? code = none ↔ code ∉ all.map Builtin.code := by
  rw [List.mem_map]
  constructor
  · rintro none ⟨builtin, -, rfl⟩
    rw [ofCode?_code] at none
    cases none
  · intro other
    rw [Option.eq_none_iff_forall_ne_some]
    intro builtin found
    exact other ⟨builtin, mem_all builtin, ofCode?_eq_some_iff.mp found⟩

end Builtin

namespace Registry

open FaultMesh.Toml

section View
variable (registry : Registry)

theorem getDefinition_builtin (builtin : Builtin) :
    registry.getDefinition builtin.code = some builtin.definition := by
  rw [getDefinition, Builtin.ofCode?_code]

theorem getDefinition_of_none {code : String} (other : Builtin.ofCode? code = none) :
    registry.getDefinition code = registry.configured.get? code := by
  rw [getDefinition, other]

theorem mem_codes {code : String} :
    code ∈ registry.codes ↔ (Builtin.ofCode? code).isSome ∨ code ∈ registry.configured.keys := by
  rw [codes, List.mem_append, List.mem_filter]
  cases found : Builtin.ofCode? code with
  | none => simp [Builtin.ofCode?_eq_none_iff.mp found]
  | some builtin =>
    have inside := List.mem_map_of_mem (f := Builtin.code) (Builtin.mem_all builtin)
    rw [Builtin.ofCode?_eq_some_iff.mp found] at inside
    simp [inside]

theorem isSome_getDefinition_iff (code : String) :
    (registry.getDefinition code).isSome ↔ code ∈ registry.codes := by
  rw [mem_codes]
  cases found : Builtin.ofCode? code with
  | some builtin =>
    obtain rfl := Builtin.ofCode?_eq_some_iff.mp found
    simp [getDefinition_builtin]
  | none =>
    rw [getDefinition_of_none registry found, OrderedMap.get?, OrderedMap.keys,
      ← not_iff_not, Bool.not_eq_true, Option.isSome_eq_false_iff, Option.isNone_iff_eq_none,
      Entries.lookup_eq_none_iff_keys]
    simp

theorem codes_nodup : registry.codes.Nodup := by
  have builtins : (Builtin.all.map Builtin.code).Nodup := by decide
  refine List.nodup_append'.mpr ⟨builtins, registry.configured.nodup.filter _, ?_⟩
  intro code inside configured
  have other := (List.mem_filter.mp configured).2
  rw [Option.isNone_iff_eq_none, Builtin.ofCode?_eq_none_iff] at other
  exact other inside

end View

section Insertion
variable {registry next : Registry} {definition : Definition} {reason : RegistryError}

theorem insert_eq_ok : registry.insert definition = .ok next ↔
    Code.isValid definition.code = true ∧
      next = ⟨registry.configured.insert definition.code definition⟩ := by
  rw [insert]
  by_cases valid : Code.isValid definition.code = true
  · rw [if_pos valid, Except.ok.injEq]
    exact ⟨fun same => ⟨valid, same.symm⟩, fun same => same.2.symm⟩
  · rw [if_neg valid]
    constructor
    · intro inserted
      cases inserted
    · rintro ⟨named, -⟩
      exact absurd named valid

theorem insert_eq_error (refused : registry.insert definition = .error reason) :
    Code.isValid definition.code = false := by
  rw [insert] at refused
  split at refused
  · cases refused
  · next invalid => exact Bool.eq_false_iff.mpr invalid

theorem getDefinition_insert (inserted : registry.insert definition = .ok next)
    (other : Builtin.ofCode? definition.code = none) (code : String) :
    next.getDefinition code =
      if definition.code = code then some definition else registry.getDefinition code := by
  obtain ⟨-, rfl⟩ := insert_eq_ok.mp inserted
  rw [getDefinition, getDefinition]
  cases found : Builtin.ofCode? code with
  | some builtin =>
    have differs : definition.code ≠ code := by
      rintro rfl
      rw [other] at found
      cases found
    simp only [if_neg differs]
  | none => exact Entries.lookup_insert code definition.code definition registry.configured.entries

theorem codes_insert (inserted : registry.insert definition = .ok next) :
    registry.codes <+: next.codes := by
  obtain ⟨-, rfl⟩ := insert_eq_ok.mp inserted
  refine (List.prefix_append_right_inj _).mpr (List.IsPrefix.filter _ ?_)
  rw [OrderedMap.keys, OrderedMap.keys, OrderedMap.entries_insert, Entries.keys_insert]
  split
  · exact List.prefix_rfl
  · exact List.prefix_append _ _

end Insertion

/-- The registry after a call of `insert`, which changes nothing when it fails. -/
def attempt (registry : Registry) (definition : Definition) : Registry :=
  match registry.insert definition with
  | .ok next => next
  | .error _ => registry

def attemptAll (registry : Registry) (definitions : List Definition) : Registry :=
  definitions.foldl attempt registry

/-- A registry to which valid codes were written, listed in order. -/
structure Written (codes : List String) (registry : Registry) : Prop where
  keys : registry.configured.keys = codes.eraseDups
  valid : ∀ code ∈ codes, Code.isValid code = true
  own : ∀ entry ∈ registry.configured.entries, entry.2.code = entry.1

namespace Written

variable {codes : List String} {registry next : Registry}

theorem builtin : Written [] builtin :=
  ⟨rfl, by simp, by simp [Registry.builtin, OrderedMap.empty]⟩

theorem insert (written : Written codes registry) {definition : Definition}
    (inserted : registry.insert definition = .ok next) :
    Written (codes ++ [definition.code]) next := by
  obtain ⟨valid, rfl⟩ := insert_eq_ok.mp inserted
  refine ⟨?_, ?_, ?_⟩
  · have keys := written.keys
    rw [OrderedMap.keys] at keys
    rw [OrderedMap.keys, OrderedMap.entries_insert, Entries.keys_insert, keys,
      Entries.eraseDups_concat]
  · intro code inside
    rcases List.mem_append.mp inside with before | last
    · exact written.valid code before
    · exact List.mem_singleton.mp last ▸ valid
  · intro entry inside
    rcases Entries.mem_insert inside with rfl | before
    · rfl
    · exact written.own entry before

theorem insertAll {definitions : List Definition} (written : Written codes registry)
    (inserted : definitions.foldlM Registry.insert registry = .ok next) :
    Written (codes ++ definitions.map Definition.code) next := by
  induction definitions generalizing codes registry with
  | nil =>
    obtain rfl := Except.ok.inj inserted
    simpa using written
  | cons definition definitions ih =>
    obtain ⟨middle, first, rest⟩ := bind_eq_ok.mp inserted
    simpa using ih (written.insert first) rest

theorem attempt (written : Written codes registry) (definition : Definition) :
    Written (codes ++ [definition.code].filter Code.isValid) (registry.attempt definition) := by
  rw [Registry.attempt]
  cases inserted : registry.insert definition with
  | ok next => simpa [(insert_eq_ok.mp inserted).1] using written.insert inserted
  | error reason => simpa [insert_eq_error inserted] using written

theorem attemptAll (written : Written codes registry) (definitions : List Definition) :
    Written (codes ++ (definitions.map Definition.code).filter Code.isValid)
      (registry.attemptAll definitions) := by
  induction definitions generalizing codes registry with
  | nil => simpa [Registry.attemptAll] using written
  | cons definition definitions ih =>
    have rest := ih (written.attempt definition)
    rw [List.append_assoc, ← List.filter_append] at rest
    exact rest

end Written

/-! ## Registries that are reached -/

/-- A registry to begin with, and the codes that were written to it in order: the builtin
one, or that of a source. -/
inductive Origin : List String → Registry → Prop
  | builtin : Origin [] builtin
  | source {text : String} {entries : List (String × Value)} {registry : Registry}
    (parsed : Toml.parse text = some entries) (loaded : (loadSource text).result = .ok registry) :
    Origin ((placesBelow [] entries).map fun place => codeOf place.path) registry

theorem codes_of_accepted {text : Value → String → Prop} {met : List Place}
    {definitions : List Definition} (accepted : List.Forall₂ (Accepted text) met definitions) :
    (met.map fun place => codeOf place.path) = definitions.map Definition.code := by
  induction accepted with
  | nil => rfl
  | cons head _ ih =>
    obtain ⟨path, entries, rfl, code, -⟩ := head
    rw [List.map_cons, List.map_cons, ih, code]
    rfl

theorem Origin.written {codes : List String} {registry : Registry}
    (origin : Origin codes registry) : Written codes registry := by
  cases origin with
  | builtin => exact Written.builtin
  | @source text entries _ parsed loaded =>
    have fits : Value.entriesInRange entries = true := by
      refine Decidable.byContradiction fun wide => ?_
      rw [loadSource, parsed, Option.filter_some, if_neg wide] at loaded
      cases loaded
    rcases loadSource_cases parsed fits with
      ⟨definitions, other, accepted, inserted, result⟩ | ⟨_, _, _, _, _, _, _, failed⟩
    · obtain rfl := Except.ok.inj (loaded.symm.trans result)
      rw [codes_of_accepted accepted]
      exact Written.builtin.insertAll inserted
    · rw [loaded] at failed
      cases failed

/-- What holds of a registry to which codes were written: lookup, enumeration and counting
agree, and an insertion changes what it inserts and nothing else. -/
structure Merged (written : List String) (registry : Registry) : Prop where
  found : ∀ code, (registry.getDefinition code).isSome ↔ code ∈ registry.codes
  own : ∀ code definition, registry.getDefinition code = some definition → definition.code = code
  distinct : registry.codes.Nodup
  builtins : registry.codes.take 15 = Builtin.all.map Builtin.code
  order : registry.codes = Builtin.all.map Builtin.code ++
    written.eraseDups.filter fun code => (Builtin.ofCode? code).isNone
  size : registry.size = registry.codes.toFinset.card
  valid : ∀ code ∈ registry.configured.keys, Code.isValid code = true
  shadowed : ∀ builtin : Builtin,
    registry.getDefinition builtin.code = some builtin.definition
  refused : ∀ definition reason, registry.insert definition = .error reason →
    Code.isValid definition.code = false ∧ registry.attempt definition = registry
  inserted : ∀ definition next, registry.insert definition = .ok next →
    Builtin.ofCode? definition.code = none →
      next.getDefinition definition.code = some definition ∧
        (∀ other, other ≠ definition.code →
          next.getDefinition other = registry.getDefinition other) ∧
        registry.codes <+: next.codes

theorem Written.merged {codes : List String} {registry : Registry}
    (written : Written codes registry) : Merged codes registry where
  found := isSome_getDefinition_iff registry
  own := by
    intro code definition found
    cases builtin : Builtin.ofCode? code with
    | some known =>
      obtain rfl := Builtin.ofCode?_eq_some_iff.mp builtin
      rw [getDefinition_builtin] at found
      rw [← Option.some.inj found]
      rfl
    | none =>
      rw [getDefinition_of_none registry builtin] at found
      exact written.own (code, definition) (Entries.mem_of_lookup found)
  distinct := codes_nodup registry
  builtins := List.take_left' rfl
  order := by rw [Registry.codes, written.keys]
  size := (List.toFinset_card_of_nodup (codes_nodup registry)).symm
  valid := by
    rw [written.keys]
    intro code inside
    exact written.valid code (List.mem_eraseDups.mp inside)
  shadowed := getDefinition_builtin registry
  refused := by
    intro definition reason refused
    exact ⟨insert_eq_error refused, by rw [Registry.attempt, refused]⟩
  inserted := by
    intro definition next inserted other
    have found := getDefinition_insert inserted other
    refine ⟨by simpa using found definition.code, ?_, codes_insert inserted⟩
    intro code differs
    rw [found, if_neg differs.symm]

/-- The merged view of a registry after any calls of `insert`, successful or not. -/
theorem merged_attemptAll {written : List String} {start : Registry}
    (origin : Origin written start) (definitions : List Definition) :
    Merged (written ++ (definitions.map Definition.code).filter Code.isValid)
      (start.attemptAll definitions) :=
  (origin.written.attemptAll definitions).merged

/-- Calls that overwrite a code, are refused, shadow a builtin code and add a code. -/
theorem merged_attemptAll_four :
    Merged ["users.404.Missing", "users.500.Down", "users.404.Missing", "http.401.Unauthorized",
        "svc.418.Tea"]
      ((loadSource quotedSource).registry.attemptAll
        [{ Definition.blank with code := "users.404.Missing" },
         { Definition.blank with code := "Tea" },
         { Definition.blank with code := "http.401.Unauthorized" },
         { Definition.blank with code := "svc.418.Tea" }]) := by
  have merged := merged_attemptAll (.source parse_quotedSource loaded_quotedSource)
    [{ Definition.blank with code := "users.404.Missing" },
     { Definition.blank with code := "Tea" },
     { Definition.blank with code := "http.401.Unauthorized" },
     { Definition.blank with code := "svc.418.Tea" }]
  have loaded : (placesBelow [] quotedEntries).map (fun place => codeOf place.path) =
      ["users.404.Missing", "users.500.Down"] := by
    decide +kernel
  have valid : ["users.404.Missing", "Tea", "http.401.Unauthorized", "svc.418.Tea"].filter
      Code.isValid = ["users.404.Missing", "http.401.Unauthorized", "svc.418.Tea"] := by
    decide +kernel
  simp only [List.map_cons, List.map_nil, loaded, valid] at merged
  exact merged

end Registry

end FaultMesh
