import Mathlib.Data.List.Forall2
import FaultMesh.Proofs.Outcome
import FaultMesh.Proofs.Toml.Keys
import FaultMesh.Toml.Reader

/-!
# Reading TOML tables

What the readers of values and of records take.  In a table that holds each key once every
field has been read from its own entry, or keeps what the reading began with.
-/

set_option autoImplicit false

namespace FaultMesh.Toml

def IsString (value : Value) (text : String) : Prop := value = .text text

/-- A string, or a date, which stands for its text. -/
def IsTextual (value : Value) (text : String) : Prop :=
  value = .text text ∨ value = .moment text

/-- A whole number of 16 bits. -/
def IsStatus (value : Value) (status : UInt16) : Prop := value = .integer status.toNat

section Tables
variable {α : Type}

/-- Entries with the values that they say under the same keys. -/
def Lists (is : Value → α → Prop) (entries : List (String × Value))
    (written : List (String × α)) : Prop :=
  List.Forall₂ (fun entry pair => entry.1 = pair.1 ∧ is entry.2 pair.2) entries written

/-- A table of values of one kind. -/
def IsTable (is : Value → α → Prop) (value : Value) (map : OrderedMap α) : Prop :=
  ∃ entries, value = .table entries ∧ Lists is entries map.entries

theorem Lists.keys {is : Value → α → Prop} {entries : List (String × Value)}
    {written : List (String × α)} (lists : Lists is entries written) :
    Entries.keys written = Entries.keys entries := by
  induction lists with
  | nil => rfl
  | cons head tail ih => simp [head.1, ih]

theorem lists_unique {is : Value → α → Prop}
    (single : ∀ value first second, is value first → is value second → first = second)
    {entries : List (String × Value)} {first second : List (String × α)}
    (one : Lists is entries first) (other : Lists is entries second) : first = second := by
  induction one generalizing second with
  | nil =>
    cases other
    rfl
  | cons head _ ih =>
    cases other with
    | cons head' tail' =>
      rw [ih tail', Prod.ext (head.1.symm.trans head'.1) (single _ _ _ head.2 head'.2)]

theorem isTable_unique {is : Value → α → Prop}
    (single : ∀ value first second, is value first → is value second → first = second)
    (value : Value) (first second : OrderedMap α) (one : IsTable is value first)
    (other : IsTable is value second) : first = second := by
  obtain ⟨entries, rfl, lists⟩ := one
  obtain ⟨again, same, lists'⟩ := other
  obtain rfl := Value.table.inj same
  exact OrderedMap.ext_entries (lists_unique single lists lists')

end Tables

theorem isString_unique (value : Value) (first second : String) (one : IsString value first)
    (other : IsString value second) : first = second :=
  Value.text.inj (one.symm.trans other)

theorem isStatus_unique {value : Value} {first second : UInt16} (one : IsStatus value first)
    (other : IsStatus value second) : first = second := by
  have same := Value.integer.inj (one.symm.trans other)
  exact UInt16.toNat_inj.mp (Int.ofNat.inj same)

section Readers
variable {value : Value}

theorem asText_eq_ok {text : String} : value.asText = .ok text ↔ IsString value text := by
  cases value <;> simp [Value.asText, Value.textAs, IsString]

theorem asStatus_eq_ok {status : Nat} :
    value.asUnsigned 16 "u16" = .ok status ↔ value = .integer status ∧ status < UInt16.size := by
  have size : Nat.pow 2 16 = UInt16.size := rfl
  cases value with
  | integer number =>
    rw [Value.asUnsigned]
    by_cases fits : Decimal.FitsUnsigned 16 number
    · rw [if_pos fits, Except.ok.injEq, Value.integer.injEq]
      rw [Decimal.FitsUnsigned, size] at fits
      omega
    · rw [if_neg fits]
      rw [Decimal.FitsUnsigned, size] at fits
      constructor
      · intro read
        split at read <;> cases read
      · rintro ⟨same, small⟩
        obtain rfl := Value.integer.inj same
        omega
  | text content => simp [Value.asUnsigned]
  | real content => simp [Value.asUnsigned]
  | boolean content => simp [Value.asUnsigned]
  | moment content => simp [Value.asUnsigned]
  | list items => simp [Value.asUnsigned]
  | table entries => simp [Value.asUnsigned]

variable {α : Type} {read : Value → Except Schema.Mismatch α} {is : Value → α → Prop}

theorem readEntries_eq_ok (exact : ∀ value found, read value = .ok found ↔ is value found)
    {entries : List (String × Value)} {written : List (String × α)} :
    Value.readEntries read entries = .ok written ↔ Lists is entries written := by
  induction entries generalizing written with
  | nil =>
    constructor
    · intro done
      obtain rfl := Except.ok.inj done
      exact .nil
    · rintro ⟨⟩
      rfl
  | cons entry entries ih =>
    obtain ⟨key, value⟩ := entry
    rw [Value.readEntries, bind_eq_ok]
    constructor
    · rintro ⟨found, first, others⟩
      obtain ⟨rest, taken, done⟩ := bind_eq_ok.mp others
      obtain rfl := Except.ok.inj done
      exact .cons ⟨rfl, (exact value found).mp first⟩ (ih.mp taken)
    · intro lists
      cases lists with
      | cons head tail =>
        obtain ⟨rfl, here⟩ := head
        exact ⟨_, (exact value _).mpr here, bind_eq_ok.mpr ⟨_, ih.mpr tail, rfl⟩⟩

/-- In a table that holds each key once, no value takes the place of another. -/
theorem asMap_eq_ok (exact : ∀ value found, read value = .ok found ↔ is value found)
    (keyed : value.Keyed) {map : OrderedMap α} :
    value.asMap read = .ok map ↔ IsTable is value map := by
  cases value with
  | table entries =>
    rw [Value.asMap, map_eq_ok]
    simp only [readEntries_eq_ok exact, IsTable, Value.table.injEq, exists_eq_left']
    constructor
    · rintro ⟨written, lists, rfl⟩
      have distinct : (Entries.keys written).Nodup := lists.keys ▸ keyed.1
      rwa [OrderedMap.entries_ofList, Entries.ofList_of_nodup distinct]
    · intro lists
      exact ⟨map.entries, lists, map.ofList_entries⟩
  | text content => simp [Value.asMap, IsTable]
  | integer content => simp [Value.asMap, IsTable]
  | real content => simp [Value.asMap, IsTable]
  | boolean content => simp [Value.asMap, IsTable]
  | moment content => simp [Value.asMap, IsTable]
  | list items => simp [Value.asMap, IsTable]

theorem mem_readEntries {entries : List (String × Value)} {written : List (String × α)}
    (made : Value.readEntries read entries = .ok written) :
    ∀ pair ∈ written, ∃ value, read value = .ok pair.2 := by
  induction entries generalizing written with
  | nil =>
    obtain rfl := Except.ok.inj made
    intro pair none
    cases none
  | cons entry entries ih =>
    obtain ⟨key, value⟩ := entry
    rw [Value.readEntries] at made
    obtain ⟨item, first, others⟩ := bind_eq_ok.mp made
    obtain ⟨rest, taken, done⟩ := bind_eq_ok.mp others
    obtain rfl := pure_eq_ok.mp done
    intro pair member
    rcases List.mem_cons.mp member with rfl | member
    · exact ⟨value, first⟩
    · exact ih taken pair member

theorem get?_asMap {map : OrderedMap α} (made : value.asMap read = .ok map) {key : String}
    {item : α} (found : map.get? key = some item) : ∃ value, read value = .ok item := by
  unfold Value.asMap at made
  split at made
  · obtain ⟨written, taken, rfl⟩ := map_eq_ok.mp made
    exact mem_readEntries taken _ (Entries.mem_ofList (Entries.mem_of_lookup found))
  · cases made

end Readers

/-! ## Dates as texts -/

section Plain
variable {α : Type}

theorem plainEntries_eq (entries : List (String × Value)) :
    Value.plainEntries entries = entries.map fun entry => (entry.1, entry.2.plain) := by
  induction entries with
  | nil => rfl
  | cons entry entries ih => simp [Value.plainEntries, ih]

theorem keys_plainEntries (entries : List (String × Value)) :
    Entries.keys (Value.plainEntries entries) = Entries.keys entries := by
  rw [plainEntries_eq]
  simp [Entries.keys, Function.comp_def]

theorem lookup_plainEntries (key : String) (entries : List (String × Value)) :
    List.lookup key (Value.plainEntries entries) =
      (List.lookup key entries).map Value.plain := by
  induction entries with
  | nil => rfl
  | cons entry entries ih =>
    by_cases same : entry.1 = key
    · simp [Value.plainEntries, Entries.lookup_cons_ite, same]
    · simp [Value.plainEntries, Entries.lookup_cons_ite, same, ih]

mutual

theorem keyed_plain : ∀ value : Value, value.Keyed → value.plain.Keyed
  | .text _, _ => trivial
  | .integer _, _ => trivial
  | .real _, _ => trivial
  | .boolean _, _ => trivial
  | .moment _, _ => trivial
  | .list items, keyed => keyedItems_plain items keyed
  | .table entries, keyed => by
    refine ⟨?_, keyedEntries_plain entries keyed.2⟩
    rw [keys_plainEntries]
    exact keyed.1

theorem keyedItems_plain : ∀ items : List Value,
    Value.KeyedItems items → Value.KeyedItems (Value.plainItems items)
  | [], _ => trivial
  | item :: items, keyed => ⟨keyed_plain item keyed.1, keyedItems_plain items keyed.2⟩

theorem keyedEntries_plain : ∀ entries : List (String × Value),
    Value.KeyedEntries entries → Value.KeyedEntries (Value.plainEntries entries)
  | [], _ => trivial
  | (_, value) :: entries, keyed =>
    ⟨keyed_plain value keyed.1, keyedEntries_plain entries keyed.2⟩

end

theorem isString_plain {value : Value} {text : String} :
    IsString value.plain text ↔ IsTextual value text := by
  cases value <;> simp [Value.plain, IsString, IsTextual]

theorem isStatus_plain {value : Value} {status : UInt16} :
    IsStatus value.plain status ↔ IsStatus value status := by
  cases value <;> simp [Value.plain, IsStatus]

theorem lists_plain {is other : Value → α → Prop}
    (same : ∀ value found, is value.plain found ↔ other value found)
    {entries : List (String × Value)} {written : List (String × α)} :
    Lists is (Value.plainEntries entries) written ↔ Lists other entries written := by
  rw [plainEntries_eq, Lists, Lists, List.forall₂_map_left_iff]
  simp only [same]

theorem isTable_plain {is other : Value → α → Prop}
    (same : ∀ value found, is value.plain found ↔ other value found) {value : Value}
    {map : OrderedMap α} : IsTable is value.plain map ↔ IsTable other value map := by
  cases value <;> simp [Value.plain, IsTable, lists_plain same]

end Plain

/-! ## Fields -/

/-- What a field is read from, if it is there, and otherwise what it is by default. -/
def Holds {α : Type} (is : Value → α → Prop) (default : α) : Option Value → α → Prop
  | none, found => found = default
  | some value, found => is value found

theorem holds_map {α : Type} {is other : Value → α → Prop} {default : α}
    {change : Value → Value} (same : ∀ value found, is (change value) found ↔ other value found)
    {entry : Option Value} {found : α} :
    Holds is default (entry.map change) found ↔ Holds other default entry found := by
  cases entry with
  | none => exact Iff.rfl
  | some value => exact same value found

theorem holds_unique {α : Type} {is : Value → α → Prop}
    (single : ∀ value first second, is value first → is value second → first = second)
    {default : α} {entry : Option Value} {first second : α} (one : Holds is default entry first)
    (other : Holds is default entry second) : first = second := by
  cases entry with
  | none => exact one.trans other.symm
  | some value => exact single value first second one other

namespace RecordReader

variable {σ β : Type} {reader : RecordReader σ} {entries : List (String × Value)}
  {start final : σ}

theorem visit_cons {key : String} {value : Value} :
    reader.visitEntries ((key, value) :: entries) start = .ok final ↔
      ∃ field next, (reader.fields.find? fun field => field.name == key) = some field ∧
        field.read start value = .ok next ∧ reader.visitEntries entries next = .ok final := by
  rw [visitEntries]
  cases reader.fields.find? fun field => field.name == key with
  | none => simp
  | some field => simp [bind_eq_ok]

theorem known_of_visit (visited : reader.visitEntries entries start = .ok final) :
    ∀ key ∈ Entries.keys entries, key ∈ reader.fieldNames := by
  induction entries generalizing start with
  | nil => simp
  | cons entry entries ih =>
    obtain ⟨key, value⟩ := entry
    obtain ⟨field, next, found, -, others⟩ := visit_cons.mp visited
    intro sought inside
    rcases List.mem_cons.mp inside with rfl | behind
    · have name : field.name = sought := by simpa using List.find?_some found
      exact name ▸ List.mem_map_of_mem (List.mem_of_find?_eq_some found)
    · exact ih others sought behind

theorem invariant_of_visit {Good : σ → Prop}
    (step : ∀ field ∈ reader.fields, ∀ value state next, Good state →
      field.read state value = .ok next → Good next)
    (visited : reader.visitEntries entries start = .ok final) (good : Good start) :
    Good final := by
  induction entries generalizing start with
  | nil => exact Except.ok.inj visited ▸ good
  | cons entry entries ih =>
    obtain ⟨key, value⟩ := entry
    obtain ⟨field, next, found, read, rest⟩ := visit_cons.mp visited
    exact ih rest (step field (List.mem_of_find?_eq_some found) value start next good read)

section Writing
variable {Writes : String → Value → σ → σ → Prop}
  (steps : ∀ field ∈ reader.fields, ∀ value, value.Keyed → ∀ state next,
    field.read state value = .ok next → Writes field.name value state next)

include steps

theorem kept_of_visit (get : σ → β)
    (keeps : ∀ key ∈ Entries.keys entries, ∀ {value state next},
      Writes key value state next → get next = get state)
    (keyed : Value.KeyedEntries entries)
    (visited : reader.visitEntries entries start = .ok final) : get final = get start := by
  induction entries generalizing start with
  | nil => rw [← Except.ok.inj visited]
  | cons entry entries ih =>
    obtain ⟨key, value⟩ := entry
    obtain ⟨field, next, found, read, rest⟩ := visit_cons.mp visited
    have called : field.name = key := by simpa using List.find?_some found
    have wrote := steps field (List.mem_of_find?_eq_some found) value keyed.1 start next read
    rw [ih (fun key inside => keeps key (List.mem_cons_of_mem _ inside)) keyed.2 rest]
    exact keeps key List.mem_cons_self (called ▸ wrote)

/-- A part that only the entry of its name changes holds what that entry says. -/
theorem holds_of_visit {name : String} (get : σ → β) (is : Value → β → Prop)
    (part : ∀ {key value state next}, Writes key value state next →
      if key = name then is value (get next) else get next = get state)
    (keyed : (Value.table entries).Keyed)
    (visited : reader.visitEntries entries start = .ok final) :
    Holds is (get start) (List.lookup name entries) (get final) := by
  induction entries generalizing start with
  | nil => exact congrArg get (Except.ok.inj visited).symm
  | cons entry entries ih =>
    obtain ⟨key, value⟩ := entry
    obtain ⟨field, next, found, read, rest⟩ := visit_cons.mp visited
    obtain ⟨distinct, within⟩ := keyed
    rw [Entries.keys_cons, List.nodup_cons] at distinct
    have called : field.name = key := by simpa using List.find?_some found
    have wrote := part (steps field (List.mem_of_find?_eq_some found) value within.1 start next read)
    rw [called] at wrote
    rw [Entries.lookup_cons_ite]
    by_cases same : key = name
    · subst same
      rw [if_pos rfl] at wrote ⊢
      have keeps : get final = get next := by
        refine kept_of_visit steps get ?_ within.2 rest
        intro other inside value state next wrote
        have differs : other ≠ key := fun same => distinct.1 (same ▸ inside)
        simpa [differs] using part wrote
      rw [Holds, keeps]
      exact wrote
    · rw [if_neg same] at wrote ⊢
      rw [← wrote]
      exact ih ⟨distinct.2, within.2⟩ rest

end Writing

theorem visit_of_able (known : ∀ key ∈ Entries.keys entries, key ∈ reader.fieldNames)
    (able : ∀ entry ∈ entries, ∀ field ∈ reader.fields, field.name = entry.1 →
      ∀ state, ∃ next, field.read state entry.2 = .ok next) :
    ∃ final, reader.visitEntries entries start = .ok final := by
  induction entries generalizing start with
  | nil => exact ⟨start, rfl⟩
  | cons entry entries ih =>
    obtain ⟨key, value⟩ := entry
    obtain ⟨field, inside, called⟩ := List.mem_map.mp (known key List.mem_cons_self)
    have some : (reader.fields.find? fun field => field.name == key).isSome := by
      rw [List.find?_isSome]
      exact ⟨field, inside, by simpa using called⟩
    obtain ⟨first, found⟩ := Option.isSome_iff_exists.mp some
    have name : first.name = key := by simpa using List.find?_some found
    obtain ⟨next, read⟩ := able (key, value) List.mem_cons_self first
      (List.mem_of_find?_eq_some found) name start
    obtain ⟨final, rest⟩ := @ih next
      (fun key behind => known key (List.mem_cons_of_mem _ behind))
      (fun entry behind => able entry (List.mem_cons_of_mem _ behind))
    exact ⟨final, visit_cons.mpr ⟨first, next, found, read, rest⟩⟩

theorem missing?_eq_none {keys : List String} :
    reader.missing? keys = none ↔
      ∀ field ∈ reader.fields, field.presence = .required → field.name ∈ keys := by
  simp [missing?]

theorem read_table : reader.read start (.table entries) = .ok final ↔
    reader.visitEntries entries start = .ok final ∧
      ∀ field ∈ reader.fields, field.presence = .required → field.name ∈ Entries.keys entries := by
  rw [read, bind_eq_ok, ← missing?_eq_none, ← Entries.keys]
  cases missing : reader.missing? (Entries.keys entries) with
  | none => simp [pure, Except.pure]
  | some name => simp

end RecordReader

end FaultMesh.Toml
