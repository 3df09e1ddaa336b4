import Mathlib.Data.List.Induction
import FaultMesh.OrderedMap

/-!
# Ordered maps as they were written

Entries under different keys make a map that lists them as they were written, and what is
found under a key is what was written there last.
-/

set_option autoImplicit false

namespace FaultMesh

namespace Entries

variable {α : Type}

@[simp] theorem keys_nil : keys ([] : List (String × α)) = [] := rfl

@[simp] theorem keys_cons (entry : String × α) (entries : List (String × α)) :
    keys (entry :: entries) = entry.1 :: keys entries := rfl

theorem lookup_cons_ite (key : String) (entry : String × α) (entries : List (String × α)) :
    List.lookup key (entry :: entries) =
      if entry.1 = key then some entry.2 else List.lookup key entries := by
  by_cases same : entry.1 = key
  · rw [if_pos same, ← same]
    exact List.lookup_cons_self
  · rw [if_neg same, List.lookup_cons, beq_false_of_ne (Ne.symm same)]

theorem lookup_eq_none_iff_keys {key : String} {entries : List (String × α)} :
    List.lookup key entries = none ↔ key ∉ keys entries := by
  rw [List.lookup_eq_none_iff, keys, List.mem_map, not_exists]
  refine forall_congr' fun entry => ?_
  rw [bne_iff_ne, not_and, ne_comm]

theorem mem_keys_of_lookup {key : String} {value : α} {entries : List (String × α)}
    (found : List.lookup key entries = some value) : key ∈ keys entries := by
  refine Decidable.byContradiction fun absent => ?_
  rw [lookup_eq_none_iff_keys.mpr absent] at found
  cases found

theorem lookup_of_mem_keys {key : String} {entries : List (String × α)}
    (present : key ∈ keys entries) : ∃ value, List.lookup key entries = some value := by
  refine Option.ne_none_iff_exists'.mp ?_
  rw [Ne, lookup_eq_none_iff_keys]
  exact not_not_intro present

theorem mem_of_lookup {key : String} {value : α} {entries : List (String × α)}
    (found : List.lookup key entries = some value) : (key, value) ∈ entries := by
  obtain ⟨before, behind, rfl, -⟩ := List.lookup_eq_some_iff.mp found
  exact List.mem_append_right before List.mem_cons_self

theorem lookup_of_mem {entry : String × α} {entries : List (String × α)}
    (distinct : (keys entries).Nodup) (inside : entry ∈ entries) :
    List.lookup entry.1 entries = some entry.2 := by
  induction entries with
  | nil => cases inside
  | cons first entries ih =>
    rw [keys_cons, List.nodup_cons] at distinct
    rcases List.mem_cons.mp inside with rfl | inside
    · exact List.lookup_cons_self
    · have other : first.1 ≠ entry.1 := fun same =>
        distinct.1 (same ▸ List.mem_map_of_mem inside)
      simp [lookup_cons_ite, other, ih distinct.2 inside]

theorem lookup_map {β : Type} (key : String) (change : α → β) (entries : List (String × α)) :
    List.lookup key (entries.map fun (key, value) => (key, change value)) =
      (List.lookup key entries).map change := by
  induction entries with
  | nil => rfl
  | cons entry entries ih =>
    by_cases same : entry.1 = key
    · simp [lookup_cons_ite, same]
    · simp [lookup_cons_ite, same, ih]

/-! ## Writing entries -/

theorem insert_of_not_mem {key : String} (value : α) {entries : List (String × α)}
    (absent : key ∉ keys entries) : insert key value entries = entries ++ [(key, value)] := by
  induction entries with
  | nil => rfl
  | cons entry entries ih =>
    rw [keys_cons, List.mem_cons, not_or] at absent
    simp [insert, Ne.symm absent.1, ih absent.2]

theorem insert_of_mem {key : String} (value : α) {entries : List (String × α)}
    (distinct : (keys entries).Nodup) (present : key ∈ keys entries) :
    insert key value entries =
      entries.map fun entry => if entry.1 = key then (key, value) else entry := by
  induction entries with
  | nil => cases present
  | cons entry entries ih =>
    rw [keys_cons, List.nodup_cons] at distinct
    rw [keys_cons, List.mem_cons] at present
    by_cases same : entry.1 = key
    · subst same
      have others :
          entries.map (fun other => if other.1 = entry.1 then (entry.1, value) else other) =
          entries := by
        refine (List.map_congr_left fun other inside => if_neg ?_).trans (List.map_id' entries)
        exact fun equal => distinct.1 (equal ▸ List.mem_map_of_mem inside)
      rw [List.map_cons, others, insert, if_pos rfl, if_pos rfl]
    · rw [List.map_cons, if_neg same, insert, if_neg same,
        ih distinct.2 (present.resolve_left (Ne.symm same))]

theorem insert_map {β : Type} (change : α → β) (key : String) (value : α)
    (entries : List (String × α)) :
    insert key (change value) (entries.map fun (key, value) => (key, change value)) =
      (insert key value entries).map fun (key, value) => (key, change value) := by
  induction entries with
  | nil => rfl
  | cons entry entries ih =>
    by_cases same : entry.1 = key
    · simp [insert, same]
    · simp [insert, same, ih]

theorem mem_insert {key : String} {value : α} {entry : String × α}
    {entries : List (String × α)} (inside : entry ∈ insert key value entries) :
    entry = (key, value) ∨ entry ∈ entries := by
  induction entries with
  | nil => exact .inl (List.mem_singleton.mp inside)
  | cons first entries ih =>
    rw [insert] at inside
    split at inside
    · rcases List.mem_cons.mp inside with here | there
      · exact .inl (by simp_all)
      · exact .inr (List.mem_cons_of_mem _ there)
    · rcases List.mem_cons.mp inside with here | there
      · exact .inr (here ▸ List.mem_cons_self)
      · exact (ih there).imp_right (List.mem_cons_of_mem _)

theorem mem_foldl_insert {entry : String × α} {written entries : List (String × α)}
    (inside : entry ∈
      written.foldl (fun entries (key, value) => insert key value entries) entries) :
    entry ∈ written ∨ entry ∈ entries := by
  induction written generalizing entries with
  | nil => exact .inr inside
  | cons first written ih =>
    rcases ih inside with behind | before
    · exact .inl (List.mem_cons_of_mem _ behind)
    · rcases mem_insert before with rfl | before
      · exact .inl List.mem_cons_self
      · exact .inr before

theorem mem_ofList {entry : String × α} {written : List (String × α)}
    (inside : entry ∈ ofList written) : entry ∈ written :=
  (mem_foldl_insert inside).resolve_right List.not_mem_nil

theorem foldl_insert_of_nodup {entries written : List (String × α)}
    (distinct : (keys (entries ++ written)).Nodup) :
    written.foldl (fun entries (key, value) => insert key value entries) entries =
      entries ++ written := by
  induction written generalizing entries with
  | nil => simp
  | cons entry written ih =>
    obtain ⟨key, value⟩ := entry
    have absent : key ∉ keys entries := by
      intro present
      rw [keys, List.map_append] at distinct
      exact (List.nodup_append.mp distinct).2.2 key present key (by simp) rfl
    simp only [List.foldl_cons]
    rw [insert_of_not_mem _ absent, ih (by simpa using distinct), List.append_assoc,
      List.singleton_append]

theorem ofList_of_nodup {written : List (String × α)} (distinct : (keys written).Nodup) :
    ofList written = written :=
  foldl_insert_of_nodup distinct

theorem lookup_insert (sought key : String) (value : α) (entries : List (String × α)) :
    List.lookup sought (insert key value entries) =
      if key = sought then some value else List.lookup sought entries := by
  induction entries with
  | nil => exact lookup_cons_ite sought (key, value) []
  | cons entry entries ih =>
    by_cases same : entry.1 = key
    · by_cases hit : key = sought
      · simp [insert, same, hit]
      · simp [insert, lookup_cons_ite, same, hit]
    · by_cases hit : entry.1 = sought
      · have other : key ≠ sought := fun equal => same (hit.trans equal.symm)
        rw [insert, if_neg same]
        simp [lookup_cons_ite, hit, other]
      · simp [insert, lookup_cons_ite, same, hit, ih]

/-- What is written under a key that is there already adds no key. -/
theorem eraseDups_concat (keys : List String) (key : String) :
    (keys ++ [key]).eraseDups =
      if key ∈ keys.eraseDups then keys.eraseDups else keys.eraseDups ++ [key] := by
  rw [List.eraseDups_append]
  by_cases present : key ∈ keys
  · simp [List.removeAll, present]
  · simp [List.removeAll, present, List.eraseDups_cons]

/-- The keys stand in the order in which they were first written. -/
theorem keys_ofList (written : List (String × α)) :
    keys (ofList written) = (keys written).eraseDups := by
  induction written using List.reverseRecOn with
  | nil => rfl
  | append_singleton written entry ih =>
    have last : ofList (written ++ [entry]) = insert entry.1 entry.2 (ofList written) := by
      rw [ofList, List.foldl_append, ← ofList, List.foldl_cons, List.foldl_nil]
    have added : keys (written ++ [entry]) = keys written ++ [entry.1] := by simp [keys]
    rw [last, keys_insert, ih, added, eraseDups_concat]

theorem lookup_foldl (key : String) (written entries : List (String × α)) :
    List.lookup key (written.foldl (fun entries (key, value) => insert key value entries) entries) =
      (List.lookup key written.reverse).or (List.lookup key entries) := by
  induction written generalizing entries with
  | nil => rfl
  | cons entry written ih =>
    rw [List.foldl_cons, ih, lookup_insert, List.reverse_cons, List.lookup_append, Option.or_assoc]
    by_cases same : entry.1 = key
    · simp [lookup_cons_ite, same]
    · simp [lookup_cons_ite, same]

/-- What is found under a key is what was written there last. -/
theorem lookup_ofList (key : String) (written : List (String × α)) :
    List.lookup key (ofList written) = List.lookup key written.reverse :=
  (lookup_foldl key written []).trans (Option.or_none)

theorem ofList_map {β : Type} (change : α → β) (written : List (String × α)) :
    ofList (written.map fun (key, value) => (key, change value)) =
      (ofList written).map fun (key, value) => (key, change value) := by
  induction written using List.reverseRecOn with
  | nil => rfl
  | append_singleton written entry ih =>
    simp only [ofList, List.map_append, List.map_cons, List.map_nil, List.foldl_append,
      List.foldl_cons, List.foldl_nil] at ih ⊢
    rw [ih, insert_map]

theorem ofList_ofList (written : List (String × α)) : ofList (ofList written) = ofList written :=
  ofList_of_nodup (nodup_keys_ofList written)

theorem ext_lookup {first second : List (String × α)} (distinct : (keys first).Nodup)
    (order : keys first = keys second)
    (found : ∀ key, List.lookup key first = List.lookup key second) :
    first = second := by
  have distinct' : (keys second).Nodup := order ▸ distinct
  refine List.ext_getElem (by simpa [keys] using congrArg List.length order) fun i here there => ?_
  have same : first[i].1 = second[i].1 := by
    have at? := congrArg (·[i]?) order
    simpa [keys, here, there] using at?
  have one := lookup_of_mem distinct (List.getElem_mem here)
  have other := lookup_of_mem distinct' (List.getElem_mem there)
  rw [found, same, other] at one
  exact Prod.ext same (Option.some.inj one).symm

end Entries

namespace OrderedMap

variable {α : Type}

theorem ext_entries {first second : OrderedMap α} (same : first.entries = second.entries) :
    first = second := by
  cases first
  cases second
  cases same
  rfl

theorem get?_insert (map : OrderedMap α) (key sought : String) (value : α) :
    (map.insert key value).get? sought = if key = sought then some value else map.get? sought :=
  Entries.lookup_insert sought key value map.entries

theorem get?_insertNew_of_ne (map : OrderedMap α) {key sought : String} (other : key ≠ sought)
    (value : α) : (map.insertNew key value).get? sought = map.get? sought := by
  rw [insertNew]
  split
  · rfl
  · rw [get?_insert, if_neg other]

theorem eq_of_mem {map : OrderedMap α} {key : String} {value : α} {entry : String × α}
    (found : map.get? key = some value) (inside : entry ∈ map.entries) (same : entry.1 = key) :
    value = entry.2 := by
  have stored : map.get? entry.1 = some entry.2 := Entries.lookup_of_mem map.nodup inside
  rw [same, found] at stored
  exact Option.some.inj stored

theorem contains_iff {map : OrderedMap α} {key : String} :
    map.contains key = true ↔ key ∈ Entries.keys map.entries := by
  rw [contains, Option.isSome_iff_ne_none, get?, Ne, Entries.lookup_eq_none_iff_keys,
    Decidable.not_not]

theorem insertNew_of_contains {map : OrderedMap α} {key : String}
    (present : map.contains key = true) (value : α) : map.insertNew key value = map :=
  if_pos present

theorem insertNew_of_not_contains {map : OrderedMap α} {key : String}
    (absent : ¬ map.contains key = true) (value : α) :
    map.insertNew key value = map.insert key value :=
  if_neg absent

/-- Keys that are not there yet are added behind the others. -/
theorem entries_foldl_insertNew {added : List (String × α)} (distinct : (Entries.keys added).Nodup)
    (map : OrderedMap α) :
    (added.foldl (fun map (key, value) => map.insertNew key value) map).entries =
      map.entries ++ added.filter fun entry => !map.contains entry.1 := by
  induction added generalizing map with
  | nil => simp
  | cons entry added ih =>
    obtain ⟨key, value⟩ := entry
    rw [Entries.keys_cons, List.nodup_cons] at distinct
    rw [List.foldl_cons, ih distinct.2]
    simp only
    by_cases present : map.contains key = true
    · rw [insertNew_of_contains present, List.filter_cons_of_neg (by simpa using present)]
    · have absent : key ∉ Entries.keys map.entries := by rwa [contains_iff] at present
      rw [insertNew_of_not_contains present, entries_insert, Entries.insert_of_not_mem _ absent,
        List.filter_cons_of_pos (by simpa using present), List.append_assoc,
        List.singleton_append]
      congr 2
      refine List.filter_congr fun other inside => ?_
      have member : other.1 ∈ Entries.keys added := List.mem_map_of_mem inside
      have unlike : key ≠ other.1 := fun same => distinct.1 (same ▸ member)
      rw [contains, get?_insert, if_neg unlike, contains]

theorem get?_mapValues {β : Type} (map : OrderedMap α) (change : α → β) (key : String) :
    (map.mapValues change).get? key = (map.get? key).map change :=
  Entries.lookup_map key change map.entries

theorem values_mapValues {β : Type} (map : OrderedMap α) (change : α → β) :
    (map.mapValues change).values = map.values.map change := by
  simp [values, mapValues]

theorem ofList_entries (map : OrderedMap α) : ofList map.entries = map :=
  ext_entries (Entries.ofList_of_nodup map.nodup)

end OrderedMap

end FaultMesh
