import FaultMesh.Proofs.Datum
import FaultMesh.Proofs.Json.Values
import FaultMesh.Proofs.Json.Written
import FaultMesh.Proofs.Text.Utf8

/-!
# Data there and back

What a reader finds in the text of a value.  As long as lists and maps do not nest too
deep, the value comes back with its order and its keys, and only reals may have changed.
-/

set_option autoImplicit false

namespace FaultMesh.Json

open FaultMesh.Text (Glyph)
open FaultMesh.Datum

theorem parse_written (value : Datum) :
    ∃ root, parse (Text.Utf8.encode (write value)) = ⟨root, none⟩ ∧ Shows value root := by
  obtain ⟨root, stop, parsed, shows⟩ := parseNode_written value
    (fuelFor (scalars (write value))) 0 [] (by simp [fuelFor, scalars]) trivial
  rw [List.append_nil] at parsed
  refine ⟨root, ?_, shows⟩
  rw [parse, Text.Utf8.glyphs_encode, ← scalars, parseGlyphs, parsed]
  rfl

mutual

/-- A tree that shows a value is read as it, with its numbers read again. -/
theorem datum_of_shows : ∀ (value : Datum) (node : Node) (limit : Nat), Shows value node →
    value.Keyed → value.depth ≤ limit → node.datum limit = .ok (value.mapNumbers reread)
  | .null, _, _, ⟨stop, rfl⟩, _, _ => by simp [Node.datum, mapNumbers]
  | .boolean _, _, _, ⟨stop, rfl⟩, _, _ => by simp [Node.datum, mapNumbers]
  | .number _, _, _, ⟨numeral, stop, rfl, read⟩, _, _ => by
    simp [Node.datum, mapNumbers, readNumber, read, Except.map]
  | .text _, _, _, ⟨stop, rfl⟩, _, _ => by simp [Node.datum, mapNumbers, Except.map]
  | .list items, _, 0, _, _, shallow => by
    rw [depth] at shallow
    omega
  | .map entries, _, 0, _, _, shallow => by
    rw [depth] at shallow
    omega
  | .list items, _, limit + 1, ⟨start, nodes, rfl, shows⟩, keyed, shallow => by
    rw [depth] at shallow
    rw [Node.datum, dataOfItems_of_shows items nodes limit shows keyed (by omega)]
    rfl
  | .map entries, _, limit + 1, ⟨start, members, rfl, shows⟩, keyed, shallow => by
    rw [depth] at shallow
    rw [Node.datum, dataOfMembers_of_shows entries members limit shows keyed.2 (by omega)]
    have distinct : (Entries.keys (mapNumbersOfEntries reread entries)).Nodup := by
      rw [keys_mapNumbersOfEntries]
      exact keyed.1
    simp only [mapNumbers, bind, Except.bind, close, Entries.ofList_of_nodup distinct]
    rfl

theorem dataOfItems_of_shows : ∀ (items : List Datum) (nodes : List Node) (limit : Nat),
    ShowsItems items nodes → KeyedItems items → depthOfItems items ≤ limit →
      dataOfItems limit nodes = .ok (mapNumbersOfItems reread items)
  | [], _, _, rfl, _, _ => rfl
  | item :: items, _, limit, ⟨node, rest, rfl, shows, others⟩, keyed, shallow => by
    rw [depthOfItems] at shallow
    rw [dataOfItems, datum_of_shows item node limit shows keyed.1 (by omega),
      dataOfItems_of_shows items rest limit others keyed.2 (by omega)]
    rfl

theorem dataOfMembers_of_shows : ∀ (entries : List (String × Datum))
    (members : List (Except Problem String × Node)) (limit : Nat),
    ShowsEntries entries members → KeyedEntries entries → depthOfEntries entries ≤ limit →
      dataOfMembers limit members = .ok (mapNumbersOfEntries reread entries)
  | [], _, _, rfl, _, _ => rfl
  | (key, value) :: entries, _, limit, ⟨node, rest, rfl, shows, others⟩, keyed, shallow => by
    rw [depthOfEntries] at shallow
    rw [dataOfMembers, datum_of_shows value node limit shows keyed.1 (by omega),
      dataOfMembers_of_shows entries rest limit others keyed.2 (by omega)]
    rfl

end

mutual

/-- Whatever is read holds each key once in each of its maps. -/
theorem keyed_of_datum : ∀ (node : Node) (limit : Nat) {value : Datum},
    node.datum limit = .ok value → value.Keyed
  | .scalar .null _, _, _, read => by
    simp only [Node.datum, Except.ok.injEq] at read
    exact read ▸ trivial
  | .scalar (.boolean _) _, _, _, read => by
    simp only [Node.datum, Except.ok.injEq] at read
    exact read ▸ trivial
  | .scalar (.number numeral) stop, _, _, read => by
    rw [Node.datum] at read
    cases number : readNumber numeral stop with
    | error problem =>
      rw [number] at read
      cases read
    | ok number' =>
      rw [number] at read
      exact Except.ok.inj read ▸ trivial
  | .scalar (.text (.error _)) _, _, _, read => by
    rw [Node.datum] at read
    cases read
  | .scalar (.text (.ok _)) _, _, _, read => by
    rw [Node.datum] at read
    exact Except.ok.inj read ▸ trivial
  | .broken _, _, _, read => by
    rw [Node.datum] at read
    cases read
  | .list _ _ _, 0, _, read => by
    rw [Node.datum] at read
    cases read
  | .object _ _ _, 0, _, read => by
    rw [Node.datum] at read
    cases read
  | .list _ items _, limit + 1, _, read => by
    rw [Node.datum, bind_eq_ok] at read
    obtain ⟨values, inside, read⟩ := read
    obtain ⟨-, -, read⟩ := bind_eq_ok.mp read
    exact Except.ok.inj read ▸ keyedItems_of_data items limit inside
  | .object _ members _, limit + 1, _, read => by
    rw [Node.datum, bind_eq_ok] at read
    obtain ⟨written, inside, read⟩ := read
    obtain ⟨-, -, read⟩ := bind_eq_ok.mp read
    exact Except.ok.inj read ▸ keyed_ofList (keyedEntries_of_data members limit inside)

theorem keyedItems_of_data : ∀ (items : List Node) (limit : Nat) {values : List Datum},
    dataOfItems limit items = .ok values → KeyedItems values
  | [], _, _, read => Except.ok.inj read ▸ trivial
  | item :: items, limit, _, read => by
    rw [dataOfItems, bind_eq_ok] at read
    obtain ⟨value, first, read⟩ := read
    obtain ⟨values, others, read⟩ := bind_eq_ok.mp read
    exact Except.ok.inj read ▸
      ⟨keyed_of_datum item limit first, keyedItems_of_data items limit others⟩

theorem keyedEntries_of_data : ∀ (members : List (Except Problem String × Node)) (limit : Nat)
    {written : List (String × Datum)}, dataOfMembers limit members = .ok written →
      KeyedEntries written
  | [], _, _, read => Except.ok.inj read ▸ trivial
  | (_, node) :: members, limit, _, read => by
    rw [dataOfMembers, bind_eq_ok] at read
    obtain ⟨key, -, read⟩ := read
    obtain ⟨value, first, read⟩ := bind_eq_ok.mp read
    obtain ⟨written, others, read⟩ := bind_eq_ok.mp read
    exact Except.ok.inj read ▸
      ⟨keyed_of_datum node limit first, keyedEntries_of_data members limit others⟩

end

theorem readDatum_written {value : Datum} (keyed : value.Keyed)
    (shallow : value.depth ≤ depthLimit) :
    readDatum (Text.Utf8.encode (write value)) = .ok (value.mapNumbers reread) := by
  obtain ⟨root, parsed, shows⟩ := parse_written value
  rw [readDatum, parsed, Document.datum, Document.read_eq_ok]
  exact ⟨rfl, datum_of_shows value root depthLimit shows keyed shallow⟩

/-! ## Members -/

theorem named_of_shows {entries : List (String × Datum)}
    {members : List (Except Problem String × Node)} (shows : ShowsEntries entries members) :
    ∃ named, namedMembers? members = some named ∧ Entries.keys named = Entries.keys entries ∧
      ∀ key, match List.lookup key entries with
        | none => List.lookup key named = none
        | some value => ∃ node, List.lookup key named = some node ∧ Shows value node := by
  induction entries generalizing members with
  | nil =>
    obtain rfl := shows
    exact ⟨[], rfl, rfl, fun key => rfl⟩
  | cons entry entries ih =>
    obtain ⟨key, value⟩ := entry
    obtain ⟨node, rest, rfl, first, others⟩ := shows
    obtain ⟨named, same, keys, found⟩ := ih others
    refine ⟨(key, node) :: named, by rw [namedMembers?, same]; rfl, by simp [keys], ?_⟩
    intro sought
    by_cases hit : key = sought
    · simp only [Entries.lookup_cons_ite, hit, if_true]
      exact ⟨node, rfl, first⟩
    · simp only [Entries.lookup_cons_ite, hit, if_false]
      exact found sought

theorem isText_of_shows {text : String} {node : Node} (shows : Shows (.text text) node) :
    IsText node text := shows

theorem fits_status (status : UInt16) : Decimal.FitsUnsigned 64 (status.toNat : Int) := by
  have small : status.toNat < 2 ^ 64 := Nat.lt_trans status.toNat_lt (by decide)
  exact ⟨Int.natCast_nonneg _, by exact_mod_cast small⟩

theorem ofNat_status (status : UInt16) :
    Datum.ofNat status.toNat = .number (.whole status.toNat (.inr (fits_status status))) := by
  rw [Datum.ofNat, Datum.ofInt, Number.ofInt?, dif_pos (.inr (fits_status status))]

theorem isStatus_of_shows {status : UInt16} {node : Node}
    (shows : Shows (.number (.whole status.toNat (.inr (fits_status status)))) node) :
    IsStatus node status := by
  obtain ⟨numeral, stop, rfl, read⟩ := shows
  rw [reread_whole] at read
  obtain ⟨integral, unsigned, magnitude⟩ := (number?_eq_whole (by omega)).mp read
  exact ⟨numeral, stop, rfl, integral, unsigned, by omega⟩

theorem mapOf_of_shows {α : Type} {write : α → Datum} {read : Node → Except Problem α}
    (back : ∀ value node, Shows (write value) node → read node = .ok value) {depth : Nat}
    (enters : depth ≠ 0) {map : OrderedMap α} {node : Node}
    (shows : Shows (.map (map.mapValues write).entries) node) :
    Node.mapOf depth read node = .ok map := by
  obtain ⟨start, members, rfl, shows⟩ := shows
  have all : ∀ (entries before : List (String × α))
      (members : List (Except Problem String × Node)),
      ShowsEntries (entries.map fun entry => (entry.1, write entry.2)) members →
        Node.foldMembers (fun written key value => do
          let value ← read value
          return (key, value) :: written) before members = .ok (entries.reverse ++ before) := by
    intro entries
    induction entries with
    | nil =>
      intro before members shows
      obtain rfl := shows
      rfl
    | cons entry entries ih =>
      intro before members shows
      obtain ⟨node, rest, rfl, first, others⟩ := shows
      rw [Node.foldMembers, List.reverse_cons, List.append_assoc]
      have own : read node = .ok entry.2 := back entry.2 node first
      simp only [bind, Except.bind, own]
      exact ih ((entry.1, entry.2) :: before) rest others
  have folded := all map.entries [] members shows
  rw [Node.mapOf, if_neg enters, folded]
  simp only [bind, Except.bind, close, List.append_nil, List.reverse_reverse,
    OrderedMap.ofList_entries]
  rfl

theorem isTexts_of_shows {texts : OrderedMap String} {node : Node}
    (shows : Shows (.map (texts.mapValues .text).entries) node) : IsTexts node texts := by
  have enters : 1 ≠ 0 := Nat.one_ne_zero
  apply (texts_eq_ok enters).mp
  apply mapOf_of_shows _ enters shows
  intro text node shows
  exact text_eq_ok.mpr (isText_of_shows shows)

end FaultMesh.Json
