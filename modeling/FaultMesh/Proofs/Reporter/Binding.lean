import FaultMesh.Proofs.OrderedMap
import FaultMesh.Proofs.Reporter

/-!
# What a fault binds

The data of a fault are those of the caller in their order, then what is known of the request
in debug mode, then the text of the cause.  Nothing that the caller bound is replaced, but for
a null under the key of the cause, and the messages are rendered from what comes out.
-/

set_option autoImplicit false

namespace FaultMesh

namespace Fault

/-- An entry of the caller as it is bound: a null under the key of the cause takes its text. -/
def filledIn : Option Cause → String × Datum → String × Datum
  | some cause, (key, .null) => if key = errorKey then (key, .text cause.text) else (key, .null)
  | _, entry => entry

/-- The entry for the cause, where the caller has none under its key. -/
def causeEntry (data : Data) : Option Cause → List (String × Datum)
  | some cause => if data.contains errorKey then [] else [(errorKey, .text cause.text)]
  | none => []

theorem filledIn_of_ne (cause : Option Cause) {entry : String × Datum} (other : entry.1 ≠ errorKey) :
    filledIn cause entry = entry := by
  obtain ⟨key, value⟩ := entry
  cases cause with
  | none => rfl
  | some cause =>
    cases value with
    | null => exact if_neg other
    | _ => rfl

theorem filledIn_of_isNull (cause : Option Cause) {entry : String × Datum}
    (given : entry.2.isNull = false) : filledIn cause entry = entry := by
  obtain ⟨key, value⟩ := entry
  cases cause with
  | none => rfl
  | some cause =>
    cases value with
    | null => cases given
    | _ => rfl

theorem filledIn_of_null (cause : Cause) {entry : String × Datum} (same : entry.1 = errorKey)
    (null : entry.2.isNull = true) :
    filledIn (some cause) entry = (errorKey, .text cause.text) := by
  obtain ⟨key, value⟩ := entry
  obtain rfl : key = errorKey := same
  cases value with
  | null => rw [filledIn, if_pos rfl]
  | _ => cases null

theorem map_filledIn {entries : List (String × Datum)} (cause : Option Cause)
    (kept : ∀ entry ∈ entries, entry.1 ≠ errorKey ∨ entry.2.isNull = false) :
    entries.map (filledIn cause) = entries := by
  refine (List.map_congr_left fun entry inside => ?_).trans (List.map_id' entries)
  rcases kept entry inside with other | given
  · exact filledIn_of_ne cause other
  · exact filledIn_of_isNull cause given

section Found
variable {data : Data} {value : Datum} (cause : Cause)

theorem entries_bindCause_of_absent (absent : data.get? errorKey = none) :
    (bindCause data (some cause)).entries = data.entries ++ [(errorKey, .text cause.text)] := by
  have written : bindCause data (some cause) = data.insert errorKey (.text cause.text) := by
    simp [bindCause, absent]
  rw [written, OrderedMap.entries_insert,
    Entries.insert_of_not_mem _ (Entries.lookup_eq_none_iff_keys.mp absent)]

theorem entries_bindCause_of_null (found : data.get? errorKey = some value)
    (null : value.isNull = true) :
    (bindCause data (some cause)).entries = data.entries.map (filledIn (some cause)) := by
  have written : bindCause data (some cause) = data.insert errorKey (.text cause.text) := by
    simp [bindCause, found, null]
  have present : errorKey ∈ Entries.keys data.entries := Entries.mem_keys_of_lookup found
  rw [written, OrderedMap.entries_insert, Entries.insert_of_mem _ data.nodup present]
  refine List.map_congr_left fun entry inside => ?_
  by_cases same : entry.1 = errorKey
  · rw [if_pos same, filledIn_of_null _ same (OrderedMap.eq_of_mem found inside same ▸ null)]
  · rw [if_neg same, filledIn_of_ne _ same]

theorem bindCause_of_given (found : data.get? errorKey = some value)
    (given : value.isNull = false) : bindCause data (some cause) = data := by
  simp [bindCause, found, given]

end Found

theorem entries_bindCause (data : Data) (cause : Option Cause) :
    (bindCause data cause).entries =
      data.entries.map (filledIn cause) ++ causeEntry data cause := by
  cases cause with
  | none =>
    rw [causeEntry, List.append_nil]
    exact (List.map_id' data.entries).symm
  | some cause =>
    rw [causeEntry, OrderedMap.contains]
    cases found : data.get? errorKey with
    | none =>
      rw [entries_bindCause_of_absent cause found, map_filledIn]
      · rfl
      · intro entry inside
        exact .inl fun same =>
          Entries.lookup_eq_none_iff_keys.mp found (same ▸ List.mem_map_of_mem inside)
    | some value =>
      rw [Option.isSome_some, if_pos rfl, List.append_nil]
      cases null : value.isNull with
      | true => exact entries_bindCause_of_null cause found null
      | false =>
        rw [bindCause_of_given cause found null, map_filledIn]
        intro entry inside
        by_cases same : entry.1 = errorKey
        · exact .inr (OrderedMap.eq_of_mem found inside same ▸ null)
        · exact .inl same

end Fault

theorem RequestContext.entries_addDebugEntries (context : RequestContext) (data : Data) :
    (context.addDebugEntries data).entries = data.entries ++
      if context.debug then context.debugEntries.filter fun entry => !data.contains entry.1
      else [] := by
  have distinct : (Entries.keys context.debugEntries).Nodup := by
    show debugKeys.Nodup
    decide
  rw [addDebugEntries]
  split
  · exact OrderedMap.entries_foldl_insertNew distinct data
  · exact (List.append_nil _).symm

namespace Reporter

section Binding
variable (reporter : Reporter) (data : Data) (cause : Option Cause)

theorem errorKey_not_mem_debugKeys : Fault.errorKey ∉ RequestContext.debugKeys := by decide

theorem causeEntry_addDebugEntries (context : RequestContext) :
    Fault.causeEntry (context.addDebugEntries data) cause = Fault.causeEntry data cause := by
  cases cause with
  | none => rfl
  | some cause =>
    rw [Fault.causeEntry, Fault.causeEntry, OrderedMap.contains,
      context.get?_addDebugEntries data errorKey_not_mem_debugKeys, OrderedMap.contains]

theorem entries_bound (context : RequestContext) :
    (Fault.bindCause (context.addDebugEntries data) cause).entries =
      data.entries.map (Fault.filledIn cause) ++
        (if context.debug then context.debugEntries.filter fun entry => !data.contains entry.1
          else []) ++ Fault.causeEntry data cause := by
  rw [Fault.entries_bindCause, causeEntry_addDebugEntries, context.entries_addDebugEntries,
    List.map_append]
  congr 2
  refine Fault.map_filledIn cause fun entry inside => .inl fun same => ?_
  split at inside
  · have key : entry.1 ∈ RequestContext.debugKeys :=
      List.mem_map_of_mem (List.mem_filter.mp inside).1
    exact errorKey_not_mem_debugKeys (same ▸ key)
  · cases inside

/-- What a built fault binds, and what its messages are rendered from.  The entries of the
caller come first, as they are but for a null under the key of the cause; then in debug mode
what is known of the request, under keys that the caller did not use; then the text of the
first cause, if the caller has nothing under its key. -/
theorem instantiate_binds (ambient : Ambient) (definition : Definition) (causes : List Cause) :
    let fault := (reporter.instantiate ambient definition data causes).1
    fault.data.entries =
        data.entries.map (Fault.filledIn causes.head?) ++
          (if reporter.context.debug then
            [("DebugMode", .boolean true), ("Method", .text reporter.context.method),
              ("Path", .text reporter.context.path),
              ("QueryString", .text reporter.context.query)].filter
              fun entry => !data.contains entry.1
          else []) ++
          Fault.causeEntry data causes.head? ∧
      fault.messages.entries = definition.messages.entries.map fun (locale, template) =>
        (locale, template.render fault.data) := by
  intro fault
  have bound : fault.data =
      Fault.bindCause (reporter.context.addDebugEntries data) causes.head? :=
    instantiate_data reporter ambient definition data causes
  constructor
  · rw [bound]
    exact entries_bound data causes.head? reporter.context
  · rw [bound]
    exact congrArg OrderedMap.entries
      (instantiate_messages reporter ambient definition data causes)

end Binding

example :
    let data : Data := .ofList [("Error", .null), ("Path", .text "/here")]
    (instantiate ⟨.builtin, ⟨"en", true, "GET", "/a", "q=1"⟩⟩ ⟨⟨"", ""⟩, .off⟩ .blank data
        [.plain "refused"]).1.data.entries =
      [("Error", .text "refused"), ("Path", .text "/here"), ("DebugMode", .boolean true),
        ("Method", .text "GET"), ("QueryString", .text "q=1")] := rfl

end Reporter

end FaultMesh
