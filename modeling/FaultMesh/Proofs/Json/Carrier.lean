import FaultMesh.Json.Kept
import FaultMesh.Json.Value
import FaultMesh.Proofs.Json.Exact
import FaultMesh.Proofs.Json.Visitor

/-!
# Data as carriers of JSON

A document becomes a datum in two ways: by trying the shapes of a datum on what was kept of the
document, and by changing the JSON value of the document part by part.  Both are visitors of
the same document, so they agree where they agree on single parts.
-/

set_option autoImplicit false

namespace FaultMesh

open FaultMesh.Json (Visitor Kept)
open FaultMesh.Json.Visitor (Turns)

/-- What is done to the items of a list one after another is done to each of them. -/
theorem eq_map_of_cons {α β : Type} {whole : List α → List β} {each : α → β}
    (nil : whole [] = []) (cons : ∀ item items, whole (item :: items) = each item :: whole items)
    (items : List α) : whole items = items.map each := by
  induction items with
  | nil => exact nil
  | cons item items ih => rw [cons, ih, List.map_cons]

namespace Datum

def visitor : Visitor Datum where
  null := .null
  boolean := .boolean
  number := .number
  text := .text
  list := .list
  object written := .map (Entries.ofList written)

mutual

theorem visit_datum : ∀ (node : Json.Node) (depth : Nat),
    node.visit visitor depth = node.datum depth
  | .scalar .null _, _ => by rw [Json.Node.visit, Json.Node.datum, visitor]
  | .scalar (.boolean _) _, _ => by rw [Json.Node.visit, Json.Node.datum, visitor]
  | .scalar (.number _) _, _ => by rw [Json.Node.visit, Json.Node.datum, visitor]
  | .scalar (.text _) _, _ => by rw [Json.Node.visit, Json.Node.datum, visitor]
  | .broken _, _ => by rw [Json.Node.visit, Json.Node.datum]
  | .list _ _ _, 0 => by rw [Json.Node.visit, Json.Node.datum]
  | .object _ _ _, 0 => by rw [Json.Node.visit, Json.Node.datum]
  | .list _ items _, depth + 1 => by
    rw [Json.Node.visit, Json.Node.datum, visitItems_datum items depth, visitor]
  | .object _ members _, depth + 1 => by
    rw [Json.Node.visit, Json.Node.datum, visitMembers_datum members depth, visitor]

theorem visitItems_datum : ∀ (items : List Json.Node) (depth : Nat),
    Json.visitItems visitor depth items = Json.dataOfItems depth items
  | [], _ => rfl
  | item :: items, depth => by
    rw [Json.visitItems, Json.dataOfItems, visit_datum item depth, visitItems_datum items depth]

theorem visitMembers_datum :
    ∀ (members : List (Except Json.Problem String × Json.Node)) (depth : Nat),
      Json.visitMembers visitor depth members = Json.dataOfMembers depth members
  | [], _ => rfl
  | (key, node) :: members, depth => by
    simp only [Json.visitMembers, Json.dataOfMembers, visit_datum node depth,
      visitMembers_datum members depth]

end

theorem visitText_datum (octets : List UInt8) :
    Json.visitText visitor octets = Json.readDatum octets := by
  have same : Json.Node.visit visitor Json.depthLimit = Json.Node.datum Json.depthLimit :=
    funext fun node => visit_datum node Json.depthLimit
  rw [Json.visitText, Json.readDatum, Json.Document.datum, same]

theorem ofValues_eq (items : List Json.Value) : ofValues items = items.map ofValue :=
  eq_map_of_cons rfl (fun _ _ => rfl) items

theorem ofMembers_eq (members : List (String × Json.Value)) :
    ofMembers members = members.map fun (key, value) => (key, ofValue value) :=
  eq_map_of_cons rfl (fun (_, _) _ => rfl) members

theorem turns_ofValue : Turns ofValue Json.Value.visitor visitor where
  null := rfl
  boolean _ := rfl
  number _ := rfl
  text _ := rfl
  list items := congrArg Datum.list (ofValues_eq items)
  object members := by
    rw [Json.Value.visitor, visitor, ofValue, ofMembers_eq, ← Entries.ofList_map,
      Entries.ofList_ofList]

mutual

/-- The same parts as a JSON value, each in its place. -/
def toValue : Datum → Json.Value
  | .null => .null
  | .boolean value => .boolean value
  | .number value => .number value
  | .text content => .text content
  | .list items => .list (toValues items)
  | .map entries => .object (toMembers entries)

def toValues : List Datum → List Json.Value
  | [] => []
  | item :: items => item.toValue :: toValues items

def toMembers : List (String × Datum) → List (String × Json.Value)
  | [] => []
  | (key, value) :: entries => (key, value.toValue) :: toMembers entries

end

theorem toValues_eq (items : List Datum) : toValues items = items.map toValue :=
  eq_map_of_cons rfl (fun _ _ => rfl) items

theorem toMembers_eq (entries : List (String × Datum)) :
    toMembers entries = entries.map fun (key, value) => (key, value.toValue) :=
  eq_map_of_cons rfl (fun (_, _) _ => rfl) entries

theorem turns_toValue : Turns toValue visitor Json.Value.visitor where
  null := rfl
  boolean _ := rfl
  number _ := rfl
  text _ := rfl
  list items := congrArg Json.Value.list (toValues_eq items)
  object members := by
    rw [visitor, toValue, toMembers_eq]
    exact congrArg Json.Value.object (Entries.ofList_map toValue members).symm

end Datum

namespace Json

/-- Writes the parts of a document as they are met. -/
def writer : Visitor (List Char) where
  null := ['n', 'u', 'l', 'l']
  boolean value := if value then ['t', 'r', 'u', 'e'] else ['f', 'a', 'l', 's', 'e']
  number := Number.render
  text := writeString
  list := enclose '[' ']'
  object written :=
    enclose '\x7b' '\x7d' ((Entries.ofList written).map fun (key, value) => writeMember key value)

theorem writeItems_eq (items : List Datum) : writeItems items = items.map write :=
  eq_map_of_cons rfl (fun _ _ => rfl) items

theorem writeEntries_eq (entries : List (String × Datum)) :
    writeEntries entries = entries.map fun (key, value) => writeMember key (write value) :=
  eq_map_of_cons rfl (fun (_, _) _ => rfl) entries

theorem turns_write : Turns write Datum.visitor writer where
  null := rfl
  boolean value := by cases value <;> rfl
  number _ := rfl
  text _ := rfl
  list items := congrArg (enclose '[' ']') (writeItems_eq items)
  object members := by
    simp only [Datum.visitor, writer, write, writeEntries_eq, Entries.ofList_map, List.map_map,
      Function.comp_def]

namespace Value

theorem writeItems_eq (items : List Value) : writeItems items = items.map write :=
  eq_map_of_cons rfl (fun _ _ => rfl) items

theorem writeMembers_eq (members : List (String × Value)) :
    writeMembers members = members.map fun (key, value) => writeMember key value.write :=
  eq_map_of_cons rfl (fun (_, _) _ => rfl) members

theorem turns_write : Turns write visitor writer where
  null := rfl
  boolean value := by cases value <;> rfl
  number _ := rfl
  text _ := rfl
  list items := congrArg (enclose '[' ']') (writeItems_eq items)
  object members := by
    simp only [visitor, writer, write, writeMembers_eq, Entries.ofList_map, List.map_map,
      Function.comp_def]

end Value

/-! ## What was kept -/

namespace Kept

mutual

/-- The datum whose shapes are those of what was kept. -/
def datum : Kept → Datum
  | .null => .null
  | .boolean value => .boolean value
  | .number value => .number value
  | .text content => .text content
  | .list items => .list (dataOfItems items)
  | .object members => .map (Entries.ofList (dataOfMembers members))

def dataOfItems : List Kept → List Datum
  | [] => []
  | item :: items => item.datum :: dataOfItems items

def dataOfMembers : List (String × Kept) → List (String × Datum)
  | [] => []
  | (key, value) :: members => (key, value.datum) :: dataOfMembers members

end

theorem dataOfItems_eq (items : List Kept) : dataOfItems items = items.map datum :=
  eq_map_of_cons rfl (fun _ _ => rfl) items

theorem dataOfMembers_eq (members : List (String × Kept)) :
    dataOfMembers members = members.map fun (key, value) => (key, value.datum) :=
  eq_map_of_cons rfl (fun (_, _) _ => rfl) members

theorem turns_datum : Turns datum visitor Datum.visitor where
  null := rfl
  boolean _ := rfl
  number _ := rfl
  text _ := rfl
  list items := congrArg Datum.list (dataOfItems_eq items)
  object members := congrArg (Datum.map ∘ Entries.ofList) (dataOfMembers_eq members)

mutual

/-- Some shape always fits, and it is the only one that does. -/
theorem ofKept?_eq : ∀ kept : Kept, Datum.ofKept? kept = some kept.datum
  | .null => by simp [Datum.ofKept?, null?, datum]
  | .boolean _ => by simp [Datum.ofKept?, null?, boolean?, datum]
  | .number _ => by simp [Datum.ofKept?, null?, boolean?, number?, datum]
  | .text _ => by simp [Datum.ofKept?, null?, boolean?, number?, text?, datum]
  | .list items => by
    simp [Datum.ofKept?, null?, boolean?, number?, text?, datum, ofKeptItems?_eq items]
  | .object members => by
    simp [Datum.ofKept?, null?, boolean?, number?, text?, datum, ofKeptMembers?_eq members]

theorem ofKeptItems?_eq : ∀ items : List Kept,
    Datum.ofKeptItems? items = some (dataOfItems items)
  | [] => rfl
  | item :: items => by
    rw [Datum.ofKeptItems?, ofKept?_eq item, ofKeptItems?_eq items, dataOfItems]
    rfl

theorem ofKeptMembers?_eq : ∀ members : List (String × Kept),
    Datum.ofKeptMembers? members = some (dataOfMembers members)
  | [] => rfl
  | (key, value) :: members => by
    rw [Datum.ofKeptMembers?, ofKept?_eq value, ofKeptMembers?_eq members, dataOfMembers]
    rfl

end

end Kept

theorem datumInTurn_eq (node : Node) (depth : Nat) : node.datumInTurn depth = node.datum depth := by
  rw [← Datum.visit_datum, Kept.turns_datum.visit, Node.datumInTurn]
  cases node.visit Kept.visitor depth with
  | error problem => rfl
  | ok kept =>
    simp only [bind, Except.bind, Kept.ofKept?_eq]
    rfl

/-- Trying the shapes in turn reads what is read by going along with the document. -/
theorem readInTurn_eq (octets : List UInt8) : readInTurn octets = readDatum octets := by
  have same : Node.datumInTurn depthLimit = Node.datum depthLimit :=
    funext fun node => datumInTurn_eq node depthLimit
  rw [readInTurn, readDatum, Document.datum, same]

/-! ## What a datum says of a document -/

/-- A datum for what was kept: part for part, each of its own kind, with the keys of an object
in the order in which they first stand there and with the last value under each. -/
inductive Means : Kept → Datum → Prop where
  | null : Means .null .null
  | boolean (value : Bool) : Means (.boolean value) (.boolean value)
  | number (value : Number) : Means (.number value) (.number value)
  | text (content : String) : Means (.text content) (.text content)
  | list {items : List Kept} {values : List Datum} (length : values.length = items.length)
      (each : ∀ (index : Nat) (item : Kept) (value : Datum),
        items[index]? = some item → values[index]? = some value → Means item value) :
      Means (.list items) (.list values)
  | object {members : List (String × Kept)} {entries : List (String × Datum)}
      (order : Entries.keys entries = (Entries.keys members).eraseDups)
      (last : ∀ (key : String) (member : Kept) (value : Datum),
        List.lookup key members.reverse = some member →
          List.lookup key entries = some value → Means member value) :
      Means (.object members) (.map entries)

namespace Means

mutual

theorem datum : ∀ kept : Kept, Means kept kept.datum
  | .null => .null
  | .boolean value => .boolean value
  | .number value => .number value
  | .text content => .text content
  | .list items => by
    rw [Kept.datum]
    refine .list (by rw [Kept.dataOfItems_eq, List.length_map]) ?_
    intro index item value here there
    rw [Kept.dataOfItems_eq, List.getElem?_map, here] at there
    exact Option.some.inj there ▸ ofItems items item (List.mem_of_getElem? here)
  | .object members => by
    rw [Kept.datum, Kept.dataOfMembers_eq]
    refine .object ?_ ?_
    · rw [Entries.keys_ofList]
      simp [Entries.keys, Function.comp_def]
    · intro key member value here there
      rw [Entries.ofList_map, Entries.lookup_map, Entries.lookup_ofList, here] at there
      exact Option.some.inj there ▸
        ofMembers members (key, member) (List.mem_reverse.mp (Entries.mem_of_lookup here))

theorem ofItems : ∀ (items : List Kept), ∀ item ∈ items, Means item item.datum
  | [], _, inside => by cases inside
  | first :: items, item, inside => by
    rcases List.mem_cons.mp inside with same | inside
    · exact same ▸ datum first
    · exact ofItems items item inside

theorem ofMembers : ∀ (members : List (String × Kept)), ∀ member ∈ members,
    Means member.2 member.2.datum
  | [], _, inside => by cases inside
  | (key, value) :: members, member, inside => by
    rcases List.mem_cons.mp inside with same | inside
    · exact same ▸ datum value
    · exact ofMembers members member inside

end

theorem unique {kept : Kept} {first second : Datum} (one : Means kept first)
    (other : Means kept second) : first = second := by
  induction one generalizing second with
  | null | boolean | number | text => cases other; rfl
  | @list items values length each ih =>
    cases other with
    | @list _ others length' each' =>
      refine congrArg Datum.list (List.ext_getElem (length.trans length'.symm) ?_)
      intro index here there
      have item := List.getElem?_eq_getElem (length ▸ here : index < items.length)
      exact ih index _ _ item (List.getElem?_eq_getElem here)
        (each' index _ _ item (List.getElem?_eq_getElem there))
  | @object members entries order last ih =>
    cases other with
    | @object _ others order' last' =>
      have distinct : (Entries.keys entries).Nodup := by
        rw [order, ← Entries.keys_ofList]
        exact Entries.nodup_keys_ofList members
      have same : Entries.keys entries = Entries.keys others := order.trans order'.symm
      -- The order settles the keys, so only what is found under each is left to compare.
      refine congrArg Datum.map (Entries.ext_lookup distinct same fun key => ?_)
      by_cases present : key ∈ Entries.keys entries
      · obtain ⟨value, found⟩ := Entries.lookup_of_mem_keys present
        obtain ⟨value', found'⟩ := Entries.lookup_of_mem_keys (same ▸ present)
        have inside : key ∈ Entries.keys members.reverse := by
          rw [order, List.mem_eraseDups] at present
          simpa [Entries.keys] using present
        obtain ⟨member, written⟩ := Entries.lookup_of_mem_keys inside
        rw [found, found', ih key member value written found (last' key member value' written found')]
      · rw [Entries.lookup_eq_none_iff_keys.mpr present,
          Entries.lookup_eq_none_iff_keys.mpr (same ▸ present)]

end Means

/-- Reading a document gives what it means, and only where it can be read at all. -/
theorem readInTurn_eq_ok_iff (octets : List UInt8) (datum : Datum) :
    readInTurn octets = .ok datum ↔
      ∃ kept, visitText Kept.visitor octets = .ok kept ∧ Means kept datum := by
  rw [readInTurn_eq, ← Datum.visitText_datum, Kept.turns_datum.visitText, map_eq_ok]
  constructor
  · rintro ⟨kept, read, rfl⟩
    exact ⟨kept, read, .datum kept⟩
  · rintro ⟨kept, read, means⟩
    exact ⟨kept, read, (Means.datum kept).unique means⟩

theorem written_alike (octets : List UInt8) :
    (readInTurn octets).map write = (readValue octets).map Value.write := by
  rw [readInTurn_eq, ← Datum.visitText_datum, readValue, ← turns_write.visitText,
    ← Value.turns_write.visitText]

/-- Data carry JSON documents faithfully: trying the shapes in turn succeeds where the document
is a JSON value and gives the datum of that value, from which the value can be told again; keys
keep their first place and the last value, and numbers their kind, at every depth; both are
written alike; and a datum that nests within the limit comes back from its text if its numbers
come back from theirs.  Lists and maps are shown as they are written. -/
theorem data_carry_documents :
    (∀ octets : List UInt8,
      readInTurn octets = (readValue octets).map Datum.ofValue ∧
      readValue octets = (readInTurn octets).map Datum.toValue ∧
      (readInTurn octets).map write = (readValue octets).map Value.write ∧
      ∀ datum, readInTurn octets = .ok datum ↔
        ∃ kept, visitText Kept.visitor octets = .ok kept ∧ Means kept datum) ∧
    (∀ datum : Datum, datum.Keyed → datum.depth ≤ 127 →
      (∀ number ∈ datum.numbers, reread number = number) →
        readInTurn (Text.Utf8.encode (write datum)) = .ok datum) ∧
    (∀ items, (Datum.list items).shown.toList = write (.list items)) ∧
    ∀ entries, (Datum.map entries).shown.toList = write (.map entries) := by
  refine ⟨fun octets => ⟨?_, ?_, written_alike octets, readInTurn_eq_ok_iff octets⟩, ?_, ?_, ?_⟩
  · rw [readInTurn_eq, ← Datum.visitText_datum]
    exact Datum.turns_ofValue.visitText octets
  · rw [readInTurn_eq, ← Datum.visitText_datum]
    exact Datum.turns_toValue.visitText octets
  · intro datum keyed shallow stable
    rw [readInTurn_eq]
    exact readDatum_exact ⟨keyed, shallow, stable⟩
  · intro items
    exact String.toList_ofList
  · intro entries
    exact String.toList_ofList

/-- Lists and maps inside each other, empty ones, a negative zero and a text to be escaped. -/
def nested : Datum :=
  let negativeZero := (Binary64.ofBits? 0x8000000000000000).getD .zero
  .map [("b", .list [.number (.real negativeZero), .null, .map []]), ("", .text "\"\n")]

theorem nested_carried :
    nested.Keyed ∧ nested.depth ≤ 127 ∧ (∀ number ∈ nested.numbers, reread number = number) ∧
      readInTurn (Text.Utf8.encode (write nested)) = .ok nested := by
  have keyed : nested.Keyed := by
    simp [nested, Datum.Keyed, Datum.KeyedEntries, Datum.KeyedItems]
  have shallow : nested.depth ≤ 127 := by decide
  have stable : ∀ number ∈ nested.numbers, reread number = number := by decide +kernel
  exact ⟨keyed, shallow, stable, data_carry_documents.2.1 nested keyed shallow stable⟩

end Json

end FaultMesh
