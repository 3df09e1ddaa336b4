/-!
# Ordered maps

Text keys with values, in the order in which the keys were first written.  Writing a key
again keeps its place and takes the new value.  A map holds each key once, which is part
of the type.
-/

set_option autoImplicit false

namespace FaultMesh

namespace Entries

variable {α β : Type}

/-- Writes a value in place of an earlier one under its key, or at the end. -/
def insert (key : String) (value : α) : List (String × α) → List (String × α)
  | [] => [(key, value)]
  | (k, old) :: rest =>
    if k = key then (k, value) :: rest else (k, old) :: insert key value rest

def ofList (written : List (String × α)) : List (String × α) :=
  written.foldl (fun entries (key, value) => insert key value entries) []

def keys (entries : List (String × α)) : List String :=
  entries.map Prod.fst

theorem keys_insert (key : String) (value : α) (entries : List (String × α)) :
    keys (insert key value entries) =
      if key ∈ keys entries then keys entries else keys entries ++ [key] := by
  induction entries with
  | nil => simp [insert, keys]
  | cons entry rest ih =>
    obtain ⟨k, old⟩ := entry
    by_cases h : k = key
    · simp [insert, keys, h]
    · have h' : ¬ key = k := fun e => h e.symm
      simp only [keys] at ih
      simp only [insert, h, if_false, keys, List.map_cons, List.mem_cons, h', false_or, ih]
      by_cases present : key ∈ List.map Prod.fst rest <;> simp [present]

theorem nodup_keys_insert (key : String) (value : α) {entries : List (String × α)}
    (h : (keys entries).Nodup) : (keys (insert key value entries)).Nodup := by
  rw [keys_insert]
  split
  · exact h
  next absent =>
    rw [List.nodup_append]
    refine ⟨h, by simp, ?_⟩
    intro a ha b hb
    have : b = key := by simpa using hb
    subst this
    intro e
    exact absent (e ▸ ha)

theorem nodup_keys_foldl (written entries : List (String × α)) (h : (keys entries).Nodup) :
    (keys (written.foldl (fun entries (key, value) => insert key value entries) entries)).Nodup := by
  induction written generalizing entries with
  | nil => exact h
  | cons entry rest ih => exact ih _ (nodup_keys_insert entry.1 entry.2 h)

theorem nodup_keys_ofList (written : List (String × α)) : (keys (ofList written)).Nodup :=
  nodup_keys_foldl written [] (by simp [keys])

end Entries

structure OrderedMap (α : Type) where
  entries : List (String × α)
  nodup : (Entries.keys entries).Nodup
  deriving DecidableEq

namespace OrderedMap

variable {α β : Type}

instance [Repr α] : Repr (OrderedMap α) := ⟨fun map n => reprPrec map.entries n⟩

def empty : OrderedMap α := ⟨[], by simp [Entries.keys]⟩

instance : EmptyCollection (OrderedMap α) := ⟨empty⟩

instance : Inhabited (OrderedMap α) := ⟨empty⟩

def ofList (written : List (String × α)) : OrderedMap α :=
  ⟨Entries.ofList written, Entries.nodup_keys_ofList written⟩

def insert (map : OrderedMap α) (key : String) (value : α) : OrderedMap α :=
  ⟨Entries.insert key value map.entries, Entries.nodup_keys_insert key value map.nodup⟩

/-- Writes a value only under a key that is not there yet. -/
def insertNew (map : OrderedMap α) (key : String) (value : α) : OrderedMap α :=
  if (List.lookup key map.entries).isSome then map else map.insert key value

def get? (map : OrderedMap α) (key : String) : Option α :=
  List.lookup key map.entries

def contains (map : OrderedMap α) (key : String) : Bool :=
  (map.get? key).isSome

def keys (map : OrderedMap α) : List String :=
  Entries.keys map.entries

def values (map : OrderedMap α) : List α :=
  map.entries.map Prod.snd

def size (map : OrderedMap α) : Nat :=
  map.entries.length

def mapValues (f : α → β) (map : OrderedMap α) : OrderedMap β :=
  ⟨map.entries.map fun (key, value) => (key, f value), by
    have h : Entries.keys (map.entries.map fun (key, value) => (key, f value)) =
        Entries.keys map.entries := by
      simp [Entries.keys, Function.comp_def]
    rw [h]
    exact map.nodup⟩

@[simp] theorem entries_insert (map : OrderedMap α) (key : String) (value : α) :
    (map.insert key value).entries = Entries.insert key value map.entries := rfl

@[simp] theorem entries_ofList (written : List (String × α)) :
    (ofList written).entries = Entries.ofList written := rfl

end OrderedMap

end FaultMesh
