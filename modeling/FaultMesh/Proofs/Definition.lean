import FaultMesh.Definition.Json
import FaultMesh.Proofs.Json.RoundTrip

/-!
# Definitions there and back

The text of a definition is read as the definition without its code: each template is compiled
again from its source, and the maps keep their order.  An object is not read if it holds
anything but the fields of a definition, one of them twice, no status, or a message that does
not compile.
-/

set_option autoImplicit false

namespace FaultMesh.Definition

open FaultMesh.Json

/-- A template is what its source compiles to, so the source says all of it. -/
theorem readTemplate_eq_ok {node : Node} {template : Template} :
    readTemplate node = .ok template ↔ IsText node template.source := by
  rw [readTemplate, bind_eq_ok]
  constructor
  · intro ⟨source, text, compiled⟩
    split at compiled
    next made parsed =>
      obtain rfl := Except.ok.inj compiled
      rw [Template.parse_eq_ok_iff.mp parsed]
      exact text_eq_ok.mp text
    next => cases compiled
  · intro is
    refine ⟨template.source, text_eq_ok.mpr is, ?_⟩
    rw [Template.parse_eq_ok_iff.mpr rfl]
    rfl

theorem readTemplate_of_shows (template : Template) (node : Node)
    (shows : Shows (.text template.source) node) : readTemplate node = .ok template :=
  readTemplate_eq_ok.mpr (isText_of_shows shows)

def entries (definition : Definition) : List (String × Datum) :=
  [("status_code", .number (.whole definition.status.toNat (.inr (fits_status definition.status)))),
   ("description", .text definition.description),
   ("message", .map (definition.messages.mapValues fun template => .text template.source).entries),
   ("data", .map (definition.data.mapValues .text).entries)]

theorem datum_eq (definition : Definition) : definition.datum = .map definition.entries := by
  rw [datum, entries, ofNat_status]

section Written
variable {definition : Definition} {node : Node}

theorem text_of_shows (text : String) (node : Node) (shows : Shows (.text text) node) :
    node.text = .ok text :=
  text_eq_ok.mpr (isText_of_shows shows)

theorem readNode_of_shows (shows : Shows (.map definition.entries) node) :
    readNode node = .ok { definition with code := "" } := by
  obtain ⟨start, members, rfl, shows⟩ := shows
  obtain ⟨status, rest, rfl, showsStatus, shows⟩ := shows
  obtain ⟨description, rest, rfl, showsDescription, shows⟩ := shows
  obtain ⟨messages, rest, rfl, showsMessages, shows⟩ := shows
  obtain ⟨data, rest, rfl, showsData, rfl⟩ := shows
  have readStatus : status.status = .ok definition.status :=
    status_eq_ok.mpr (isStatus_of_shows showsStatus)
  have readDescription := text_of_shows _ _ showsDescription
  have readMessages : messages.mapOf (depthLimit - 1) readTemplate = .ok definition.messages :=
    mapOf_of_shows readTemplate_of_shows (by decide) showsMessages
  have readData : data.mapOf (depthLimit - 1) Node.text = .ok definition.data :=
    mapOf_of_shows text_of_shows (by decide) showsData
  have taken : reader.take (blank, [])
      [("status_code", status), ("description", description), ("message", messages),
        ("data", data)] =
      .ok ({ definition with code := "" },
        ["data", "message", "description", "status_code"]) := by
    simp [RecordReader.take, RecordReader.visit, reader, Entries.lookup_cons_ite, readStatus,
      readDescription, readMessages, readData, bind, Except.bind, pure, Except.pure, blank]
  rw [readNode, bind_eq_ok]
  exact ⟨_, (RecordReader.read_eq_ok (by decide) (by decide)).mpr ⟨_, rfl, taken⟩, rfl⟩

theorem readJson_written (definition : Definition) :
    readJson (Text.Utf8.encode (write definition.datum)) = .ok { definition with code := "" } := by
  obtain ⟨root, parsed, shows⟩ := parse_written definition.datum
  rw [datum_eq] at shows
  rw [readJson, parsed, Document.read_eq_ok]
  exact ⟨rfl, readNode_of_shows shows⟩

theorem readTemplate_written (template : Template) :
    (parse (Text.Utf8.encode (write (.text template.source)))).read readTemplate =
      .ok template := by
  obtain ⟨root, parsed, shows⟩ := parse_written (.text template.source)
  rw [parsed, Document.read_eq_ok]
  exact ⟨rfl, readTemplate_of_shows template root shows⟩

end Written

section Read
variable {members : List (String × Node)} {next : Definition × List String}

theorem code_of_take (taken : reader.take (blank, []) members = .ok next) : next.1.code = "" := by
  refine RecordReader.kept_of_take Definition.code ?_ taken
  intro name read known draft node after same
  apply RecordReader.changes_of_read ?_ known same
  simp only [reader, List.forall_mem_cons]
  refine ⟨?_, ?_, ?_, ?_, by simp⟩
  all_goals exact RecordReader.changes_of_put fun before content => rfl

theorem taken_of_readJson {octets : List UInt8} {definition : Definition}
    (read : readJson octets = .ok definition) :
    ∃ members seen, recordMembers? reader.fieldNames (parse octets).root = some members ∧
      reader.take (blank, []) members = .ok (definition, seen) ∧ "status_code" ∈ seen := by
  have root := (Document.read_eq_ok.mp read).2
  rw [readNode, bind_eq_ok] at root
  obtain ⟨⟨draft, seen⟩, record, required⟩ := root
  obtain ⟨members, same, taken⟩ := (RecordReader.read_eq_ok (by decide) (by decide)).mp record
  simp only at required
  split at required
  next present =>
    obtain rfl := Except.ok.inj required
    exact ⟨members, seen, same, taken, present⟩
  next => cases required

theorem code_of_readJson {octets : List UInt8} {definition : Definition}
    (read : readJson octets = .ok definition) : definition.code = "" := by
  obtain ⟨members, seen, -, taken, -⟩ := taken_of_readJson read
  exact code_of_take taken

theorem compiles_of_take (taken : reader.take (blank, []) members = .ok next) {start : Nat}
    {locales : List (Except Problem String × Node)} {broken : Option Break}
    (messages : ("message", .object start locales broken) ∈ members) :
    ∀ locale ∈ locales, ∃ template : Template, IsText locale.2 template.source := by
  have known : List.lookup "message" reader.fields = some _ := rfl
  have found := (RecordReader.regular_of_take taken).lookup messages
    (Entries.mem_keys_of_lookup known)
  rcases RecordReader.field_of_take known (fun _ => ()) (fun _ _ _ _ _ _ _ _ => rfl) taken with
    ⟨missing, -⟩ | ⟨node, draft, after, same, read, -⟩
  · rw [found] at missing
    cases missing
  · obtain rfl := Option.some.inj (found.symm.trans same)
    obtain ⟨map, made, -⟩ := bind_eq_ok.mp read
    intro locale inside
    obtain ⟨template, own⟩ := readable_of_mapOf made locale inside
    exact ⟨template, readTemplate_eq_ok.mp own⟩

end Read

/-! ## Objects that are no definitions -/

/-- What an object may not be: it holds a member that is no field, lacks the status, holds a
field twice, or has a message whose text does not compile. -/
inductive Faulty (members : List (Except Problem String × Node)) : Prop where
  | foreign {name : String} {node : Node} (inside : (.ok name, node) ∈ members)
    (unknown : name ∉ ["status_code", "description", "message", "data"])
  | statusless (absent : ∀ node, (.ok "status_code", node) ∉ members)
  | repeated {name : String} {first second : Node}
    (twice : [(.ok name, first), (.ok name, second)].Sublist members)
    (known : name ∈ ["status_code", "description", "message", "data"])
  | refused {start stop : Nat} {locales : List (Except Problem String × Node)}
    {broken : Option Break} {locale : Except Problem String} {source : String}
    {reason : TemplateError}
    (messages : (.ok "message", .object start locales broken) ∈ members)
    (message : (locale, .scalar (.text (.ok source)) stop) ∈ locales)
    (flaw : Template.parse source = .error reason)

theorem not_faulty_of_readJson {octets : List UInt8} {definition : Definition}
    (read : readJson octets = .ok definition) {start : Nat}
    {members : List (Except Problem String × Node)} {broken : Option Break}
    (root : (parse octets).root = .object start members broken) : ¬ Faulty members := by
  obtain ⟨named, seen, same, taken, required⟩ := taken_of_readJson read
  rw [root] at same
  obtain rfl := members_of_record same
  intro faulty
  cases faulty with
  | foreign inside unknown =>
    obtain ⟨member, within, same⟩ := List.mem_map.mp inside
    cases same
    exact unknown (RecordReader.known_of_take rfl taken _ (List.mem_map_of_mem within))
  | statusless absent =>
    rcases RecordReader.mem_keys_of_seen taken required with none | present
    · cases none
    · obtain ⟨member, within, status⟩ := List.mem_map.mp present
      apply absent member.2
      exact List.mem_map.mpr ⟨member, within, by rw [status]⟩
  | repeated twice known =>
    obtain ⟨pair, within, same⟩ := List.sublist_map_iff.mp twice
    obtain ⟨one, other, rfl⟩ : ∃ one other, pair = [one, other] := by
      apply List.length_eq_two.mp
      simpa using (congrArg List.length same).symm
    simp only [List.map_cons, List.cons.injEq, Prod.mk.injEq, Except.ok.injEq] at same
    obtain ⟨⟨rfl, -⟩, ⟨again, -⟩, -⟩ := same
    exact (RecordReader.regular_of_take taken).distinct within known again
  | refused messages message flaw =>
    obtain ⟨⟨name, node⟩, within, same⟩ := List.mem_map.mp messages
    cases same
    obtain ⟨template, is⟩ := compiles_of_take taken within _ message
    obtain ⟨_, same⟩ := is
    cases same
    rw [Template.parse_eq_ok_iff.mpr rfl] at flaw
    cases flaw

/-- Definitions and templates survive their JSON form, the code of a definition apart: what is
written is read as it was, with its templates, their segments and the order of its maps.  What
was read from any text comes back in the same way, and a faulty object is not read. -/
theorem definitions_reread :
    (∀ definition : Definition,
        readJson (Text.Utf8.encode (write definition.datum)) =
          .ok { definition with code := "" }) ∧
      (∀ template : Template,
        (parse (Text.Utf8.encode (write (.text template.source)))).read readTemplate =
          .ok template) ∧
      (∀ (octets : List UInt8) (definition : Definition), readJson octets = .ok definition →
        readJson (Text.Utf8.encode (write definition.datum)) = .ok definition) ∧
      ∀ (octets : List UInt8) (start : Nat) (members : List (Except Problem String × Node))
        (broken : Option Break), (parse octets).root = .object start members broken →
          Faulty members → ∃ problem, readJson octets = .error problem := by
  refine ⟨readJson_written, readTemplate_written, ?_, ?_⟩
  · intro octets definition read
    have coded := code_of_readJson read
    rw [readJson_written, ← coded]
  · intro octets start members broken root faulty
    cases read : readJson octets with
    | error problem => exact ⟨problem, rfl⟩
    | ok definition => exact absurd faulty (not_faulty_of_readJson read root)

def repeatedLocale : List UInt8 :=
  Text.Utf8.encode ("\x7b\"message\":\x7b\"fr\":\"a\",\"en\":\"\x7b\x7b.Data.A\x7d\x7d\"," ++
    "\"fr\":\"\\n\"\x7d,\"status_code\":404\x7d").toList

def foreignAction : Datum :=
  .map [("status_code", .ofNat 404),
    ("message", .map [("en", .text "\x7b\x7b .Other \x7d\x7d")])]

theorem definitions_reread_messages :
    (∃ definition, readJson repeatedLocale = .ok definition ∧
      definition.messages.keys = ["fr", "en"] ∧
      readJson (Text.Utf8.encode (write definition.datum)) = .ok definition) ∧
      ∃ problem, readJson (Text.Utf8.encode (write foreignAction)) = .error problem := by
  obtain ⟨-, -, again, refused⟩ := definitions_reread
  constructor
  · let definition : Definition :=
      ⟨"", 404, "", .ofList [("fr", ⟨"\n", [.literal "\n"], by rfl⟩),
        ("en", ⟨"\x7b\x7b.Data.A\x7d\x7d", [.field ["A"]], by rfl⟩)], .empty⟩
    have read : readJson repeatedLocale = .ok definition := by decide +kernel
    exact ⟨definition, read, by rfl, again _ definition read⟩
  · have flaw : Template.parse "\x7b\x7b .Other \x7d\x7d" =
        .error (.unsupportedAction ".Other") := by decide +kernel
    obtain ⟨root, parsed, start, members, same, shows⟩ := parse_written foreignAction
    obtain ⟨status, rest, rfl, -, messages, nothing, rfl, shown, rfl⟩ := shows
    obtain ⟨inner, locales, rfl, message, others, rfl, ⟨stop, rfl⟩, -⟩ := shown
    apply refused _ start _ none
    · rw [parsed, same]
    · exact .refused (List.mem_cons_of_mem _ List.mem_cons_self) List.mem_cons_self flaw

end FaultMesh.Definition
