import FaultMesh.Proofs.OrderedMap
import FaultMesh.Toml.Document

/-!
# Keys of TOML tables

A document refuses a key that is written twice, and no way of growing a table repeats one.
So every table of a document, at any depth, holds each of its keys once.
-/

set_option autoImplicit false

namespace FaultMesh.Toml

namespace Value

mutual

/-- Every table holds each key once. -/
def Keyed : Value → Prop
  | .list items => KeyedItems items
  | .table entries => (Entries.keys entries).Nodup ∧ KeyedEntries entries
  | _ => True

def KeyedItems : List Value → Prop
  | [] => True
  | item :: items => item.Keyed ∧ KeyedItems items

def KeyedEntries : List (String × Value) → Prop
  | [] => True
  | (_, value) :: entries => value.Keyed ∧ KeyedEntries entries

end

theorem keyed_of_mem {entry : String × Value} {entries : List (String × Value)}
    (keyed : KeyedEntries entries) (inside : entry ∈ entries) : entry.2.Keyed := by
  induction entries with
  | nil => cases inside
  | cons first entries ih =>
    rcases List.mem_cons.mp inside with rfl | behind
    · exact keyed.1
    · exact ih keyed.2 behind

end Value

namespace Tree

mutual

def Keyed : Tree → Prop
  | .value written => written.Keyed
  | .table _ entries => (Entries.keys entries).Nodup ∧ KeyedEntries entries
  | .tables latest earlier =>
    ((Entries.keys latest).Nodup ∧ KeyedEntries latest) ∧ KeyedTables earlier

def KeyedEntries : List (String × Tree) → Prop
  | [] => True
  | (_, tree) :: entries => tree.Keyed ∧ KeyedEntries entries

def KeyedTables : List (List (String × Tree)) → Prop
  | [] => True
  | entries :: others =>
    ((Entries.keys entries).Nodup ∧ KeyedEntries entries) ∧ KeyedTables others

end

/-- Entries of a table that holds each key once, and so do all tables within. -/
def Sound (entries : List (String × Tree)) : Prop :=
  (Entries.keys entries).Nodup ∧ KeyedEntries entries

theorem sound_nil : Sound [] := ⟨List.nodup_nil, trivial⟩

theorem keyedEntries_iff {entries : List (String × Tree)} :
    KeyedEntries entries ↔ ∀ entry ∈ entries, entry.2.Keyed := by
  induction entries with
  | nil => simp [KeyedEntries]
  | cons entry entries ih => simp [KeyedEntries, ih]

theorem Sound.lookup {entries : List (String × Tree)} (sound : Sound entries) {key : String}
    {tree : Tree} (found : List.lookup key entries = some tree) : tree.Keyed :=
  keyedEntries_iff.mp sound.2 _ (Entries.mem_of_lookup found)

theorem Sound.insert {entries : List (String × Tree)} (sound : Sound entries) (key : String)
    {tree : Tree} (keyed : tree.Keyed) : Sound (Entries.insert key tree entries) := by
  refine ⟨Entries.nodup_keys_insert key tree sound.1, keyedEntries_iff.mpr ?_⟩
  intro entry inside
  rcases Entries.mem_insert inside with rfl | before
  · exact keyed
  · exact keyedEntries_iff.mp sound.2 entry before

theorem Sound.append {entries : List (String × Tree)} (sound : Sound entries) {key : String}
    {tree : Tree} (absent : List.lookup key entries = none) (keyed : tree.Keyed) :
    Sound (entries ++ [(key, tree)]) := by
  rw [← Entries.insert_of_not_mem tree (Entries.lookup_eq_none_iff_keys.mp absent)]
  exact sound.insert key keyed

theorem Sound.without {entries : List (String × Tree)} (sound : Sound entries) (key : String) :
    Sound (entries.filter fun entry => entry.1 ≠ key) := by
  refine ⟨sound.1.sublist (List.Sublist.map Prod.fst List.filter_sublist), ?_⟩
  apply keyedEntries_iff.mpr
  intro entry inside
  exact keyedEntries_iff.mp sound.2 entry (List.mem_filter.mp inside).1

/-! ## Growing tables -/

/-- What keeps keys apart in one table keeps them apart in the table around it. -/
theorem sound_within {standing : Standing}
    {change : Bool → List (String × Tree) → Option (List (String × Tree))}
    (keeps : ∀ dotted entries next, Sound entries → change dotted entries = some next →
      Sound next) {path : List String} {dotted : Bool} {entries next : List (String × Tree)}
    (sound : Sound entries) (grown : within standing change dotted path entries = some next) :
    Sound next := by
  induction path generalizing dotted entries next with
  | nil => exact keeps dotted entries next sound grown
  | cons key path ih =>
    rw [within] at grown
    split at grown
    next =>
      obtain ⟨child, inside, done⟩ := Option.bind_eq_some_iff.mp grown
      obtain rfl := Option.some.inj done
      exact sound.insert key (ih sound_nil inside)
    next found child present =>
      split at grown
      · cases grown
      · obtain ⟨child, inside, done⟩ := Option.bind_eq_some_iff.mp grown
        obtain rfl := Option.some.inj done
        exact sound.insert key (ih (sound.lookup present) inside)
    next latest earlier present =>
      obtain ⟨latest, inside, done⟩ := Option.bind_eq_some_iff.mp grown
      obtain rfl := Option.some.inj done
      have keyed := sound.lookup present
      exact sound.insert key ⟨ih keyed.1 inside, keyed.2⟩
    next => cases grown

variable {path : List String} {key : String} {root next : List (String × Tree)}

theorem sound_openTable (sound : Sound root) (opened : openTable path key root = some next) :
    Sound next := by
  refine sound_within ?_ sound opened
  intro dotted entries next sound opened
  split at opened
  next absent =>
    obtain rfl := Option.some.inj opened
    exact sound.append absent sound_nil
  next child present =>
    obtain rfl := Option.some.inj opened
    have keyed := sound.lookup present
    refine (sound.without key).append ?_ ⟨keyed.1, keyed.2⟩
    rw [Entries.lookup_eq_none_iff_keys]
    intro again
    obtain ⟨entry, inside, same⟩ := List.mem_map.mp again
    simpa [same] using (List.mem_filter.mp inside).2
  next => cases opened

theorem sound_openElement (sound : Sound root) (opened : openElement path key root = some next) :
    Sound next := by
  refine sound_within ?_ sound opened
  intro dotted entries next sound opened
  split at opened
  next absent =>
    obtain rfl := Option.some.inj opened
    exact sound.append absent ⟨sound_nil, trivial⟩
  next latest earlier present =>
    obtain rfl := Option.some.inj opened
    exact sound.insert key ⟨sound_nil, sound.lookup present⟩
  next => cases opened

theorem sound_write {value : Value} (keyed : value.Keyed) (sound : Sound root)
    (written : write path key value root = some next) : Sound next := by
  refine sound_within ?_ sound written
  intro dotted entries next sound written
  cases dotted with
  | false => cases written
  | true =>
    rw [if_pos rfl] at written
    split at written
    next absent =>
      obtain rfl := Option.some.inj written
      exact sound.append absent keyed
    next => cases written

theorem sound_writeBelow {header : List String} {value : Value} (keyed : value.Keyed)
    (sound : Sound root) (written : writeBelow header path key value root = some next) :
    Sound next := by
  refine sound_within ?_ sound written
  intro dotted entries next sound written
  exact sound_write keyed sound written

theorem keys_toEntries (entries : List (String × Tree)) :
    Entries.keys (toEntries entries) = Entries.keys entries := by
  induction entries with
  | nil => rfl
  | cons entry entries ih => simp [toEntries, ih]

mutual

theorem keyed_toValue : ∀ tree : Tree, tree.Keyed → (toValue tree).Keyed
  | .value _, keyed => keyed
  | .table _ entries, keyed => by
    refine ⟨?_, keyed_toEntries entries keyed.2⟩
    rw [keys_toEntries]
    exact keyed.1
  | .tables latest earlier, keyed => by
    refine keyed_toTables earlier _ keyed.2 ⟨⟨?_, keyed_toEntries latest keyed.1.2⟩, trivial⟩
    rw [keys_toEntries]
    exact keyed.1.1

theorem keyed_toEntries : ∀ entries : List (String × Tree),
    KeyedEntries entries → Value.KeyedEntries (toEntries entries)
  | [], _ => trivial
  | (_, tree) :: entries, keyed =>
    ⟨keyed_toValue tree keyed.1, keyed_toEntries entries keyed.2⟩

theorem keyed_toTables : ∀ (all : List (List (String × Tree))) (after : List Value),
    KeyedTables all → Value.KeyedItems after → Value.KeyedItems (toTables all after)
  | [], _, _, behind => behind
  | entries :: others, after, keyed, behind => by
    refine keyed_toTables others _ keyed.2 ⟨⟨?_, keyed_toEntries entries keyed.1.2⟩, behind⟩
    rw [keys_toEntries]
    exact keyed.1.1

end

theorem Sound.toEntries {entries : List (String × Tree)} (sound : Sound entries) :
    (Value.table (Tree.toEntries entries)).Keyed := by
  refine ⟨?_, keyed_toEntries entries sound.2⟩
  rw [keys_toEntries]
  exact sound.1

end Tree

/-! ## Reading documents -/

theorem keyed_of_scalar {text : List Char} {value : Value} (read : scalar? text = some value) :
    value.Keyed := by
  unfold scalar? at read
  split at read
  · exact Option.some.inj read ▸ trivial
  split at read
  · exact Option.some.inj read ▸ trivial
  split at read
  next => exact Option.some.inj read ▸ trivial
  next =>
    split at read
    next => exact Option.some.inj read ▸ trivial
    next =>
      obtain ⟨moment, -, rfl⟩ := Option.map_eq_some_iff.mp read
      trivial

mutual

theorem keyed_of_takeValue : ∀ (fuel depth : Nat) (text : List Char) {value : Value}
    {rest : List Char}, takeValue? fuel depth text = some (value, rest) → value.Keyed
  | 0, _, _, _, _, taken => by cases taken
  | fuel + 1, depth, text, _, _, taken => by
    rw [takeValue?.eq_def] at taken
    simp only at taken
    split at taken
    next outcome _ =>
      obtain ⟨⟨content, after⟩, -, same⟩ := Option.map_eq_some_iff.mp taken
      cases same
      trivial
    next =>
      split at taken
      next after =>
        split at taken
        · cases taken
        · obtain ⟨⟨items, after⟩, inside, same⟩ := Option.map_eq_some_iff.mp taken
          cases same
          exact keyed_of_takeItems fuel _ _ inside
      next after =>
        split at taken
        · cases taken
        · obtain ⟨⟨entries, after⟩, inside, same⟩ := Option.map_eq_some_iff.mp taken
          cases same
          exact (sound_of_takeMembers fuel _ _ _ Tree.sound_nil inside).toEntries
      next =>
        unfold takeScalar? at taken
        obtain ⟨value, read, same⟩ := Option.map_eq_some_iff.mp taken
        cases same
        exact keyed_of_scalar read

theorem keyed_of_takeItems : ∀ (fuel depth : Nat) (text : List Char) {items : List Value}
    {rest : List Char}, takeItems? fuel depth text = some (items, rest) →
      Value.KeyedItems items
  | 0, _, _, _, _, taken => by cases taken
  | fuel + 1, depth, text, _, _, taken => by
    rw [takeItems?] at taken
    obtain ⟨start, -, taken⟩ := Option.bind_eq_some_iff.mp taken
    split at taken
    next =>
      cases taken
      trivial
    next =>
      obtain ⟨⟨item, behind⟩, first, taken⟩ := Option.bind_eq_some_iff.mp taken
      obtain ⟨separator, -, taken⟩ := Option.bind_eq_some_iff.mp taken
      have keyed := keyed_of_takeValue fuel depth _ first
      split at taken
      next =>
        obtain ⟨⟨items, after⟩, others, taken⟩ := Option.bind_eq_some_iff.mp taken
        cases taken
        exact ⟨keyed, keyed_of_takeItems fuel depth _ others⟩
      next =>
        cases taken
        exact ⟨keyed, trivial⟩
      next => cases taken

theorem sound_of_takeMembers : ∀ (fuel depth : Nat) (entries : List (String × Tree))
    (text : List Char) {next : List (String × Tree)} {rest : List Char}, Tree.Sound entries →
      takeMembers? fuel depth entries text = some (next, rest) → Tree.Sound next
  | 0, _, _, _, _, _, _, taken => by cases taken
  | fuel + 1, depth, entries, text, _, _, sound, taken => by
    rw [takeMembers?] at taken
    obtain ⟨start, -, taken⟩ := Option.bind_eq_some_iff.mp taken
    split at taken
    next =>
      cases taken
      exact sound
    next =>
      obtain ⟨⟨path, key, behind⟩, -, taken⟩ := Option.bind_eq_some_iff.mp taken
      simp only at taken
      split at taken
      next =>
        obtain ⟨⟨value, behind⟩, read, taken⟩ := Option.bind_eq_some_iff.mp taken
        obtain ⟨grown, written, taken⟩ := Option.bind_eq_some_iff.mp taken
        obtain ⟨separator, -, taken⟩ := Option.bind_eq_some_iff.mp taken
        have kept := Tree.sound_write (keyed_of_takeValue fuel depth _ read) sound written
        split at taken
        next => exact sound_of_takeMembers fuel depth grown _ kept taken
        next =>
          cases taken
          exact kept
        next => cases taken
      next => cases taken

end

theorem sound_of_takeLines (fuel : Nat) {header : List String} {root next : List (String × Tree)}
    {text : List Char} (sound : Tree.Sound root)
    (taken : takeLines? fuel header root text = some next) : Tree.Sound next := by
  induction fuel generalizing header root text with
  | zero => cases taken
  | succ fuel ih =>
    rw [takeLines?] at taken
    obtain ⟨start, -, taken⟩ := Option.bind_eq_some_iff.mp taken
    split at taken
    next =>
      cases taken
      exact sound
    next =>
      obtain ⟨⟨path, key, behind⟩, -, taken⟩ := Option.bind_eq_some_iff.mp taken
      obtain ⟨grown, opened, taken⟩ := Option.bind_eq_some_iff.mp taken
      obtain ⟨after, -, taken⟩ := Option.bind_eq_some_iff.mp taken
      exact ih (Tree.sound_openElement sound opened) taken
    next =>
      obtain ⟨⟨path, key, behind⟩, -, taken⟩ := Option.bind_eq_some_iff.mp taken
      obtain ⟨grown, opened, taken⟩ := Option.bind_eq_some_iff.mp taken
      obtain ⟨after, -, taken⟩ := Option.bind_eq_some_iff.mp taken
      exact ih (Tree.sound_openTable sound opened) taken
    next =>
      obtain ⟨⟨path, key, behind⟩, -, taken⟩ := Option.bind_eq_some_iff.mp taken
      simp only at taken
      split at taken
      next =>
        obtain ⟨⟨value, behind⟩, read, taken⟩ := Option.bind_eq_some_iff.mp taken
        obtain ⟨grown, written, taken⟩ := Option.bind_eq_some_iff.mp taken
        obtain ⟨after, -, taken⟩ := Option.bind_eq_some_iff.mp taken
        exact ih (Tree.sound_writeBelow (keyed_of_takeValue _ _ _ read) sound written) taken
      next => cases taken

theorem keyed_of_parse {text : String} {entries : List (String × Value)}
    (parsed : parse text = some entries) : (Value.table entries).Keyed := by
  unfold parse parseChars at parsed
  obtain ⟨root, taken, rfl⟩ := Option.map_eq_some_iff.mp parsed
  exact (sound_of_takeLines _ Tree.sound_nil taken).toEntries

end FaultMesh.Toml
