import FaultMesh.Proofs.Json.Nesting

/-!
# What is read back as it was written

A document comes back as it was if its maps hold each key once, if it nests no deeper than
what is read, and if all its numbers are whole.  All three go by the parts of a document.
-/

set_option autoImplicit false

namespace FaultMesh

namespace Datum

theorem keyedItems_iff {items : List Datum} : KeyedItems items ↔ ∀ item ∈ items, item.Keyed := by
  induction items with
  | nil => simp [KeyedItems]
  | cons item items ih => simp [KeyedItems, ih]

theorem keyedEntries_iff {entries : List (String × Datum)} :
    KeyedEntries entries ↔ ∀ entry ∈ entries, entry.2.Keyed := by
  induction entries with
  | nil => simp [KeyedEntries]
  | cons entry entries ih => simp [KeyedEntries, ih]

theorem depthOfItems_le_iff {limit : Nat} {items : List Datum} :
    depthOfItems items ≤ limit ↔ ∀ item ∈ items, item.depth ≤ limit := by
  induction items with
  | nil => simp [depthOfItems]
  | cons item items ih => simp [depthOfItems, ih]

theorem mem_numbersOfItems {number : Number} {items : List Datum} :
    number ∈ numbersOfItems items ↔ ∃ item ∈ items, number ∈ item.numbers := by
  induction items with
  | nil => simp [numbersOfItems]
  | cons item items ih => simp [numbersOfItems, ih]

theorem mem_numbersOfEntries {number : Number} {entries : List (String × Datum)} :
    number ∈ numbersOfEntries entries ↔ ∃ entry ∈ entries, number ∈ entry.2.numbers := by
  induction entries with
  | nil => simp [numbersOfEntries]
  | cons entry entries ih => simp [numbersOfEntries, ih]

end Datum

namespace Json

open FaultMesh.Datum

/-- A document within a limit of depth that comes back as it was. -/
structure Exact (limit : Nat) (value : Datum) : Prop where
  keyed : value.Keyed
  shallow : value.depth ≤ limit
  whole : ∀ number ∈ value.numbers, reread number = number

namespace Exact

variable {limit : Nat}

theorem text (content : String) : Exact limit (.text content) :=
  ⟨trivial, Nat.zero_le _, by simp [numbers]⟩

theorem null : Exact limit .null := ⟨trivial, Nat.zero_le _, by simp [numbers]⟩

theorem whole_number (n : Int) (fits : Decimal.FitsSigned 64 n ∨ Decimal.FitsUnsigned 64 n) :
    Exact limit (.number (.whole n fits)) := by
  refine ⟨trivial, Nat.zero_le _, ?_⟩
  intro number inside
  rw [numbers, List.mem_singleton] at inside
  rw [inside, reread_whole]

theorem ofNat (n : Nat) : Exact limit (Datum.ofNat n) := by
  rw [Datum.ofNat, Datum.ofInt]
  cases known : Number.ofInt? n with
  | none => exact null
  | some number =>
    rw [Number.ofInt?, Option.dite_none_right_eq_some] at known
    obtain ⟨fits, same⟩ := known
    rw [← Option.some.inj same]
    exact whole_number n fits

theorem list {items : List Datum} (all : ∀ item ∈ items, Exact limit item) :
    Exact (limit + 1) (.list items) where
  keyed := keyedItems_iff.mpr fun item inside => (all item inside).keyed
  shallow := by
    rw [Datum.depth]
    exact Nat.succ_le_succ (depthOfItems_le_iff.mpr fun item inside => (all item inside).shallow)
  whole := by
    intro number inside
    rw [numbers, mem_numbersOfItems] at inside
    obtain ⟨item, member, inside⟩ := inside
    exact (all item member).whole number inside

theorem map {entries : List (String × Datum)} (distinct : (Entries.keys entries).Nodup)
    (all : ∀ entry ∈ entries, Exact limit entry.2) : Exact (limit + 1) (.map entries) where
  keyed := ⟨distinct, keyedEntries_iff.mpr fun entry inside => (all entry inside).keyed⟩
  shallow := by
    rw [Datum.depth]
    exact Nat.succ_le_succ
      (depthOfEntries_le_iff.mpr fun entry inside => (all entry inside).shallow)
  whole := by
    intro number inside
    rw [numbers, mem_numbersOfEntries] at inside
    obtain ⟨entry, member, inside⟩ := inside
    exact (all entry member).whole number inside

end Exact

theorem readDatum_exact {value : Datum} (exact : Exact depthLimit value) :
    readDatum (Text.Utf8.encode (write value)) = .ok value := by
  rw [readDatum_written exact.keyed exact.shallow,
    (mapNumbers_eq_self_iff reread value).mpr exact.whole]

end Json

end FaultMesh
