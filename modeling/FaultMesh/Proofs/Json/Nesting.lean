import FaultMesh.Proofs.Json.RoundTrip

/-!
# Nesting and its limit

A value that was read nests no deeper than the reader goes, and the text of a value that
nests deeper is not read.
-/

set_option autoImplicit false

namespace FaultMesh.Json

open FaultMesh.Datum

theorem depthOfEntries_le_iff {limit : Nat} {entries : List (String × Datum)} :
    depthOfEntries entries ≤ limit ↔ ∀ entry ∈ entries, entry.2.depth ≤ limit := by
  induction entries with
  | nil => simp [depthOfEntries]
  | cons entry entries ih => simp [depthOfEntries, ih]

theorem depthOfEntries_ofList {limit : Nat} {written : List (String × Datum)}
    (shallow : depthOfEntries written ≤ limit) :
    depthOfEntries (Entries.ofList written) ≤ limit := by
  rw [depthOfEntries_le_iff] at shallow ⊢
  intro entry inside
  exact shallow entry (Entries.mem_ofList inside)

mutual

theorem depth_of_datum : ∀ (node : Node) (limit : Nat) {value : Datum},
    node.datum limit = .ok value → value.depth ≤ limit
  | .scalar .null _, _, _, read => by
    rw [Node.datum] at read
    exact Except.ok.inj read ▸ Nat.zero_le _
  | .scalar (.boolean _) _, _, _, read => by
    rw [Node.datum] at read
    exact Except.ok.inj read ▸ Nat.zero_le _
  | .scalar (.number numeral) stop, _, _, read => by
    rw [Node.datum, map_eq_ok] at read
    obtain ⟨number, -, rfl⟩ := read
    exact Nat.zero_le _
  | .scalar (.text content) _, _, _, read => by
    rw [Node.datum, map_eq_ok] at read
    obtain ⟨text, -, rfl⟩ := read
    exact Nat.zero_le _
  | .broken _, _, _, read => by
    rw [Node.datum] at read
    cases read
  | .list _ _ _, 0, _, read => by
    rw [Node.datum] at read
    cases read
  | .object _ _ _, 0, _, read => by
    rw [Node.datum] at read
    cases read
  | .list _ items _, limit + 1, _, read => by
    rw [Node.datum, bind_eq_ok] at read
    obtain ⟨values, inside, read⟩ := read
    obtain ⟨-, -, read⟩ := bind_eq_ok.mp read
    obtain rfl := Except.ok.inj read
    exact Nat.succ_le_succ (depth_of_items items limit inside)
  | .object _ members _, limit + 1, _, read => by
    rw [Node.datum, bind_eq_ok] at read
    obtain ⟨written, inside, read⟩ := read
    obtain ⟨-, -, read⟩ := bind_eq_ok.mp read
    obtain rfl := Except.ok.inj read
    exact Nat.succ_le_succ (depthOfEntries_ofList (depth_of_members members limit inside))

theorem depth_of_items : ∀ (items : List Node) (limit : Nat) {values : List Datum},
    dataOfItems limit items = .ok values → depthOfItems values ≤ limit
  | [], _, _, read => Except.ok.inj read ▸ Nat.zero_le _
  | item :: items, limit, _, read => by
    rw [dataOfItems, bind_eq_ok] at read
    obtain ⟨value, first, read⟩ := read
    obtain ⟨values, others, read⟩ := bind_eq_ok.mp read
    obtain rfl := Except.ok.inj read
    exact Nat.max_le.mpr ⟨depth_of_datum item limit first, depth_of_items items limit others⟩

theorem depth_of_members : ∀ (members : List (Except Problem String × Node)) (limit : Nat)
    {written : List (String × Datum)}, dataOfMembers limit members = .ok written →
      depthOfEntries written ≤ limit
  | [], _, _, read => Except.ok.inj read ▸ Nat.zero_le _
  | (_, node) :: members, limit, _, read => by
    rw [dataOfMembers, bind_eq_ok] at read
    obtain ⟨key, -, read⟩ := read
    obtain ⟨value, first, read⟩ := bind_eq_ok.mp read
    obtain ⟨written, others, read⟩ := bind_eq_ok.mp read
    obtain rfl := Except.ok.inj read
    exact Nat.max_le.mpr ⟨depth_of_datum node limit first, depth_of_members members limit others⟩

end

mutual

/-- A tree is only read where the value that it shows nests within the limit. -/
theorem depth_of_shows : ∀ (value : Datum) (node : Node) (limit : Nat) {found : Datum},
    Shows value node → node.datum limit = .ok found → value.depth ≤ limit
  | .null, _, _, _, _, _ | .boolean _, _, _, _, _, _ | .number _, _, _, _, _, _
  | .text _, _, _, _, _, _ => Nat.zero_le _
  | .list items, _, 0, _, ⟨start, nodes, rfl, shows⟩, read => by
    rw [Node.datum] at read
    cases read
  | .map entries, _, 0, _, ⟨start, members, rfl, shows⟩, read => by
    rw [Node.datum] at read
    cases read
  | .list items, _, limit + 1, _, ⟨start, nodes, rfl, shows⟩, read => by
    rw [Node.datum, bind_eq_ok] at read
    obtain ⟨values, inside, -⟩ := read
    exact Nat.succ_le_succ (depthOfItems_of_shows items nodes limit shows inside)
  | .map entries, _, limit + 1, _, ⟨start, members, rfl, shows⟩, read => by
    rw [Node.datum, bind_eq_ok] at read
    obtain ⟨written, inside, -⟩ := read
    exact Nat.succ_le_succ (depthOfEntries_of_shows entries members limit shows inside)

theorem depthOfItems_of_shows : ∀ (items : List Datum) (nodes : List Node) (limit : Nat)
    {values : List Datum}, ShowsItems items nodes → dataOfItems limit nodes = .ok values →
      depthOfItems items ≤ limit
  | [], _, _, _, _, _ => Nat.zero_le _
  | item :: items, _, limit, _, ⟨node, rest, rfl, shows, others⟩, read => by
    rw [dataOfItems, bind_eq_ok] at read
    obtain ⟨value, first, read⟩ := read
    obtain ⟨values, behind, -⟩ := bind_eq_ok.mp read
    exact Nat.max_le.mpr ⟨depth_of_shows item node limit shows first,
      depthOfItems_of_shows items rest limit others behind⟩

theorem depthOfEntries_of_shows : ∀ (entries : List (String × Datum))
    (members : List (Except Problem String × Node)) (limit : Nat)
    {written : List (String × Datum)}, ShowsEntries entries members →
      dataOfMembers limit members = .ok written → depthOfEntries entries ≤ limit
  | [], _, _, _, _, _ => Nat.zero_le _
  | (key, value) :: entries, _, limit, _, ⟨node, rest, rfl, shows, others⟩, read => by
    rw [dataOfMembers, bind_eq_ok] at read
    obtain ⟨key, -, read⟩ := read
    obtain ⟨value, first, read⟩ := bind_eq_ok.mp read
    obtain ⟨written, behind, -⟩ := bind_eq_ok.mp read
    exact Nat.max_le.mpr ⟨depth_of_shows _ node limit shows first,
      depthOfEntries_of_shows entries rest limit others behind⟩

end

end FaultMesh.Json
