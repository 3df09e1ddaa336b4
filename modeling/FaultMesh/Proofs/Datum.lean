import FaultMesh.Datum
import FaultMesh.Proofs.OrderedMap

/-!
# Data as trees

How deep lists and maps nest in a datum, that maps hold each key once, and changes that
only concern the numbers in it.  Such a change leaves the depth and the keys alone.
-/

set_option autoImplicit false

namespace FaultMesh.Datum

mutual

/-- How many lists and maps lie inside each other. -/
def depth : Datum → Nat
  | .list items => depthOfItems items + 1
  | .map entries => depthOfEntries entries + 1
  | _ => 0

def depthOfItems : List Datum → Nat
  | [] => 0
  | item :: items => max item.depth (depthOfItems items)

def depthOfEntries : List (String × Datum) → Nat
  | [] => 0
  | (_, value) :: entries => max value.depth (depthOfEntries entries)

end

mutual

/-- Every map holds each key once, as an ordered map does. -/
def Keyed : Datum → Prop
  | .list items => KeyedItems items
  | .map entries => (Entries.keys entries).Nodup ∧ KeyedEntries entries
  | _ => True

def KeyedItems : List Datum → Prop
  | [] => True
  | item :: items => item.Keyed ∧ KeyedItems items

def KeyedEntries : List (String × Datum) → Prop
  | [] => True
  | (_, value) :: entries => value.Keyed ∧ KeyedEntries entries

end

theorem keyedEntries_insert (key : String) {value : Datum} (keyed : value.Keyed)
    {entries : List (String × Datum)} (all : KeyedEntries entries) :
    KeyedEntries (Entries.insert key value entries) := by
  induction entries with
  | nil => exact ⟨keyed, trivial⟩
  | cons entry entries ih =>
    rw [Entries.insert]
    split
    · exact ⟨keyed, all.2⟩
    · exact ⟨all.1, ih all.2⟩

theorem keyed_ofList {written : List (String × Datum)} (all : KeyedEntries written) :
    (Datum.map (Entries.ofList written)).Keyed := by
  have kept (entries : List (String × Datum)) (before : KeyedEntries entries) :
      KeyedEntries (written.foldl (fun entries (key, value) => Entries.insert key value entries)
        entries) := by
    induction written generalizing entries with
    | nil => exact before
    | cons entry written ih => exact ih all.2 _ (keyedEntries_insert entry.1 all.1 before)
  exact ⟨Entries.nodup_keys_ofList written, kept [] trivial⟩

/-! ## Numbers -/

mutual

def mapNumbers (change : Number → Number) : Datum → Datum
  | .number value => .number (change value)
  | .list items => .list (mapNumbersOfItems change items)
  | .map entries => .map (mapNumbersOfEntries change entries)
  | value => value

def mapNumbersOfItems (change : Number → Number) : List Datum → List Datum
  | [] => []
  | item :: items => item.mapNumbers change :: mapNumbersOfItems change items

def mapNumbersOfEntries (change : Number → Number) :
    List (String × Datum) → List (String × Datum)
  | [] => []
  | (key, value) :: entries => (key, value.mapNumbers change) :: mapNumbersOfEntries change entries

end

mutual

def numbers : Datum → List Number
  | .number value => [value]
  | .list items => numbersOfItems items
  | .map entries => numbersOfEntries entries
  | _ => []

def numbersOfItems : List Datum → List Number
  | [] => []
  | item :: items => item.numbers ++ numbersOfItems items

def numbersOfEntries : List (String × Datum) → List Number
  | [] => []
  | (_, value) :: entries => value.numbers ++ numbersOfEntries entries

end

section MapNumbers
variable (change : Number → Number)

theorem mapNumbersOfEntries_eq (entries : List (String × Datum)) :
    mapNumbersOfEntries change entries =
      entries.map fun (key, value) => (key, value.mapNumbers change) := by
  induction entries with
  | nil => rfl
  | cons entry entries ih => simp [mapNumbersOfEntries, ih]

@[simp] theorem keys_mapNumbersOfEntries (entries : List (String × Datum)) :
    Entries.keys (mapNumbersOfEntries change entries) = Entries.keys entries := by
  rw [mapNumbersOfEntries_eq]
  simp [Entries.keys, Function.comp_def]

mutual

theorem depth_mapNumbers : ∀ value : Datum, (value.mapNumbers change).depth = value.depth
  | .null => rfl
  | .boolean _ => rfl
  | .number _ => rfl
  | .text _ => rfl
  | .list items => by rw [mapNumbers, depth, depth, depthOfItems_mapNumbers items]
  | .map entries => by rw [mapNumbers, depth, depth, depthOfEntries_mapNumbers entries]

theorem depthOfItems_mapNumbers : ∀ items : List Datum,
    depthOfItems (mapNumbersOfItems change items) = depthOfItems items
  | [] => rfl
  | item :: items => by
    rw [mapNumbersOfItems, depthOfItems, depthOfItems, depth_mapNumbers item,
      depthOfItems_mapNumbers items]

theorem depthOfEntries_mapNumbers : ∀ entries : List (String × Datum),
    depthOfEntries (mapNumbersOfEntries change entries) = depthOfEntries entries
  | [] => rfl
  | (_, value) :: entries => by
    rw [mapNumbersOfEntries, depthOfEntries, depthOfEntries, depth_mapNumbers value,
      depthOfEntries_mapNumbers entries]

end

mutual

theorem keyed_mapNumbers : ∀ value : Datum, value.Keyed → (value.mapNumbers change).Keyed
  | .null, _ => trivial
  | .boolean _, _ => trivial
  | .number _, _ => trivial
  | .text _, _ => trivial
  | .list items, keyed => keyedItems_mapNumbers items keyed
  | .map entries, keyed => by
    refine ⟨?_, keyedEntries_mapNumbers entries keyed.2⟩
    rw [keys_mapNumbersOfEntries]
    exact keyed.1

theorem keyedItems_mapNumbers : ∀ items : List Datum,
    KeyedItems items → KeyedItems (mapNumbersOfItems change items)
  | [], _ => trivial
  | item :: items, keyed =>
    ⟨keyed_mapNumbers item keyed.1, keyedItems_mapNumbers items keyed.2⟩

theorem keyedEntries_mapNumbers : ∀ entries : List (String × Datum),
    KeyedEntries entries → KeyedEntries (mapNumbersOfEntries change entries)
  | [], _ => trivial
  | (_, value) :: entries, keyed =>
    ⟨keyed_mapNumbers value keyed.1, keyedEntries_mapNumbers entries keyed.2⟩

end

mutual

/-- A change of numbers changes nothing exactly when it keeps the numbers that are there. -/
theorem mapNumbers_eq_self_iff : ∀ value : Datum,
    value.mapNumbers change = value ↔ ∀ number ∈ value.numbers, change number = number
  | .null => by simp [mapNumbers, numbers]
  | .boolean _ => by simp [mapNumbers, numbers]
  | .number _ => by simp [mapNumbers, numbers]
  | .text _ => by simp [mapNumbers, numbers]
  | .list items => by
    rw [mapNumbers, numbers, list.injEq]
    exact mapNumbersOfItems_eq_self_iff items
  | .map entries => by
    rw [mapNumbers, numbers, map.injEq]
    exact mapNumbersOfEntries_eq_self_iff entries

theorem mapNumbersOfItems_eq_self_iff : ∀ items : List Datum,
    mapNumbersOfItems change items = items ↔
      ∀ number ∈ numbersOfItems items, change number = number
  | [] => by simp [mapNumbersOfItems, numbersOfItems]
  | item :: items => by
    rw [mapNumbersOfItems, List.cons.injEq, mapNumbers_eq_self_iff item,
      mapNumbersOfItems_eq_self_iff items, numbersOfItems]
    simp only [List.mem_append, or_imp, forall_and]

theorem mapNumbersOfEntries_eq_self_iff : ∀ entries : List (String × Datum),
    mapNumbersOfEntries change entries = entries ↔
      ∀ number ∈ numbersOfEntries entries, change number = number
  | [] => by simp [mapNumbersOfEntries, numbersOfEntries]
  | (key, value) :: entries => by
    rw [mapNumbersOfEntries, List.cons.injEq, Prod.mk.injEq, mapNumbers_eq_self_iff value,
      mapNumbersOfEntries_eq_self_iff entries, numbersOfEntries]
    simp only [List.mem_append, or_imp, forall_and, true_and]

end

end MapNumbers

section Composition
variable (second first : Number → Number)

mutual

theorem mapNumbers_mapNumbers : ∀ value : Datum,
    (value.mapNumbers first).mapNumbers second = value.mapNumbers (second ∘ first)
  | .null => rfl
  | .boolean _ => rfl
  | .number _ => rfl
  | .text _ => rfl
  | .list items => by simp only [mapNumbers, mapNumbersOfItems_mapNumbers items]
  | .map entries => by simp only [mapNumbers, mapNumbersOfEntries_mapNumbers entries]

theorem mapNumbersOfItems_mapNumbers : ∀ items : List Datum,
    mapNumbersOfItems second (mapNumbersOfItems first items) =
      mapNumbersOfItems (second ∘ first) items
  | [] => rfl
  | item :: items => by
    simp only [mapNumbersOfItems, mapNumbers_mapNumbers item, mapNumbersOfItems_mapNumbers items]

theorem mapNumbersOfEntries_mapNumbers : ∀ entries : List (String × Datum),
    mapNumbersOfEntries second (mapNumbersOfEntries first entries) =
      mapNumbersOfEntries (second ∘ first) entries
  | [] => rfl
  | (_, value) :: entries => by
    simp only [mapNumbersOfEntries, mapNumbers_mapNumbers value,
      mapNumbersOfEntries_mapNumbers entries]

end

end Composition

theorem mapNumbersOfEntries_id (entries : List (String × Datum)) :
    mapNumbersOfEntries id entries = entries :=
  (mapNumbersOfEntries_eq_self_iff id entries).mpr fun _ _ => rfl

end FaultMesh.Datum
