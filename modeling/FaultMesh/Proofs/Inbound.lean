import Mathlib.Tactic.ByContra
import FaultMesh.Inbound
import FaultMesh.Proofs.Fault.Shapes
import FaultMesh.Proofs.Reporter

/-!
# What becomes of a body

Every body of a failing response makes a fault.  Either it has one of the two shapes and a
code, and the fault is what it says, or all of it is kept in a fault that says so.
-/

set_option autoImplicit false

namespace FaultMesh

open FaultMesh.Json

namespace Inbound

/-- The document is read as the full shape. -/
def SaysFull (document : Document) (report : Report) : Prop :=
  document.excess = none ∧
    ∃ members, recordMembers? Report.reader.fieldNames document.root = some members ∧
      Regular Report.reader.fieldNames [] members ∧ FullShape members report

/-- The document is read as the brief shape. -/
def SaysBrief (document : Document) (brief : Brief) : Prop :=
  document.excess = none ∧
    ∃ members, recordMembers? Brief.reader.fieldNames document.root = some members ∧
      Regular Brief.reader.fieldNames [] members ∧ SimpleShape members brief

/-- Neither shape with a code is read from the document. -/
def SaysNothing (document : Document) : Prop :=
  (∀ report, SaysFull document report → report.code = "") ∧
    ∀ brief, SaysBrief document brief → brief.code = ""

section Recognition
variable {moment : Moment} {document : Document}

theorem recognize?_full {report : Report} (full : SaysFull document report)
    (coded : report.code ≠ "") :
    recognize? moment document = some (report.toFault moment) := by
  rw [recognize?, Report.read_eq_ok.mpr full]
  exact if_pos coded

theorem brief?_some {brief : Brief} (simple : SaysBrief document brief)
    (coded : brief.code ≠ "") :
    recognize?.brief? moment document = some (brief.toFault moment) := by
  rw [recognize?.brief?, Brief.read_eq_ok.mpr simple]
  exact if_pos coded

/-- Without a code in the full shape the brief one decides. -/
theorem recognize?_no_full (none : ∀ report, SaysFull document report → report.code = "") :
    recognize? moment document = recognize?.brief? moment document := by
  unfold recognize?
  split
  next report read =>
    apply if_neg
    intro coded
    exact coded (none report (Report.read_eq_ok.mp read))
  next => rfl

theorem recognize?_brief (none : ∀ report, SaysFull document report → report.code = "")
    {brief : Brief} (simple : SaysBrief document brief) (coded : brief.code ≠ "") :
    recognize? moment document = some (brief.toFault moment) :=
  (recognize?_no_full none).trans (brief?_some simple coded)

theorem recognize?_nothing (nothing : SaysNothing document) :
    recognize? moment document = none := by
  rw [recognize?_no_full nothing.1, recognize?.brief?]
  split
  next brief read =>
    apply if_neg
    intro coded
    exact coded (nothing.2 brief (Brief.read_eq_ok.mp read))
  next => rfl

theorem says_cases (document : Document) :
    (∃ report, SaysFull document report ∧ report.code ≠ "") ∨
      ((∀ report, SaysFull document report → report.code = "") ∧
        ∃ brief, SaysBrief document brief ∧ brief.code ≠ "") ∨
      SaysNothing document := by
  by_cases full : ∃ report, SaysFull document report ∧ report.code ≠ ""
  · exact .inl full
  · have none : ∀ report, SaysFull document report → report.code = "" := by
      intro report found
      by_contra coded
      exact full ⟨report, found, coded⟩
    by_cases simple : ∃ brief, SaysBrief document brief ∧ brief.code ≠ ""
    · exact .inr (.inl ⟨none, simple⟩)
    · refine .inr (.inr ⟨none, ?_⟩)
      intro brief found
      by_contra coded
      exact simple ⟨brief, found, coded⟩

end Recognition

/-- What is kept of a body that says nothing, and why it says nothing: the value of a
document, or else the text. -/
def Keeps (octets : List UInt8) (response : Datum) (reason : Foreign) : Prop :=
  ((parse octets).datum = .ok response ∧ reason = .unrecognized) ∨
    ∃ problem, (parse octets).datum = .error problem ∧
      response = .text (Text.Utf8.decodeLossy octets) ∧
      reason = .malformed (problem.message octets)

/-- A fault that wraps a body: its data are the body, in debug mode what is known of the
request, and the text of the cause. -/
structure Wraps (reporter : Reporter) (octets : List UInt8) (fault : Fault)
    (response : Datum) (reason : Foreign) : Prop where
  code : fault.code = "http.500.RequesterErrorResponseFailure"
  status : fault.status = 500
  cause : fault.cause = some reason.cause
  data : fault.data.entries =
    (responseKey, response) ::
      ((if reporter.context.debug then reporter.context.debugEntries else []) ++
        [(Fault.errorKey, .text reason.message)])
  keeps : Keeps octets response reason

theorem keeps_foreign (octets : List UInt8) :
    Keeps octets (foreign octets (parse octets)).1 (foreign octets (parse octets)).2 := by
  unfold foreign
  split
  next value read => exact .inl ⟨read, rfl⟩
  next problem read => exact .inr ⟨problem, read, rfl, rfl⟩

theorem cause_text (reason : Foreign) : reason.cause.text = reason.message := by
  cases reason <;> rfl

theorem bindCause_entries (context : RequestContext) (response : Datum) (cause : Cause) :
    (Fault.bindCause (context.addDebugEntries (.ofList [(responseKey, response)]))
        (some cause)).entries =
      (responseKey, response) ::
        ((if context.debug then context.debugEntries else []) ++
          [(Fault.errorKey, .text cause.text)]) := by
  cases debug : context.debug with
  | true => simp [RequestContext.addDebugEntries, debug]; rfl
  | false => simp [RequestContext.addDebugEntries, debug]; rfl

/-! ## Decoding -/

section Decoding
variable (reporter : Reporter) (ambient : Ambient) {octets : List UInt8}

theorem decode_recognized {fault : Fault}
    (known : recognize? ambient.moment (parse octets) = some fault) :
    decode reporter ambient octets = (fault, []) := by
  rw [decode]
  simp only [known]

theorem decode_nothing (nothing : SaysNothing (parse octets)) :
    Wraps reporter octets (decode reporter ambient octets).1
        (foreign octets (parse octets)).1 (foreign octets (parse octets)).2 ∧
      (decode reporter ambient octets).1.timestamp = ambient.moment.now := by
  have unknown : recognize? ambient.moment (parse octets) = none := recognize?_nothing nothing
  have made : (decode reporter ambient octets).1 =
      (reporter.builtin ambient .requesterErrorResponseFailure
        (.ofList [(responseKey, (foreign octets (parse octets)).1)])
        [(foreign octets (parse octets)).2.cause]).1 := by
    rw [decode]
    simp only [unknown]
  rw [made, Reporter.builtin]
  refine ⟨⟨?_, ?_, ?_, ?_, keeps_foreign octets⟩, Reporter.instantiate_timestamp ..⟩
  · rw [Reporter.instantiate_code]
    rfl
  · rw [Reporter.instantiate_status]
    rfl
  · rw [Reporter.instantiate_cause]
    rfl
  · rw [Reporter.instantiate_data, ← cause_text]
    exact bindCause_entries ..

theorem decode_unrecognized (nothing : SaysNothing (parse octets)) {value : Datum}
    (read : (parse octets).datum = .ok value) :
    Wraps reporter octets (decode reporter ambient octets).1 value .unrecognized := by
  have wraps := (decode_nothing reporter ambient nothing).1
  have kept : foreign octets (parse octets) = (value, .unrecognized) := by
    rw [foreign, read]
  rwa [kept] at wraps

end Decoding

def IsSaid (octets : List UInt8) (fault : Fault) : Prop :=
  fault.cause = none ∧
    ((∃ report, SaysFull (parse octets) report ∧ fault.code = report.code ∧
        fault.status = report.status) ∨
      ∃ brief, SaysBrief (parse octets) brief ∧ fault.code = brief.code ∧
        fault.status = brief.status)

/-- Every body makes a fault with a code and a time.  Either the body says it, or the fault
wraps all of the body, and then the body has neither shape with a code. -/
theorem decode_total (reporter : Reporter) (ambient : Ambient) (octets : List UInt8)
    (clock : ambient.moment.now ≠ "") :
    let fault := (decode reporter ambient octets).1
    fault.code ≠ "" ∧ fault.timestamp ≠ "" ∧
      (IsSaid octets fault ∧ (¬ ∃ response reason, Wraps reporter octets fault response reason) ∨
        ¬ IsSaid octets fault ∧ (∃ response reason, Wraps reporter octets fault response reason) ∧
          SaysNothing (parse octets)) := by
  intro fault
  have apart : IsSaid octets fault →
      ¬ ∃ response reason, Wraps reporter octets fault response reason := by
    rintro ⟨none, -⟩ ⟨response, reason, wraps⟩
    rw [wraps.cause] at none
    cases none
  rcases says_cases (parse octets) with
    ⟨report, full, coded⟩ | ⟨none, brief, simple, coded⟩ | nothing
  · have known : fault = report.toFault ambient.moment := by
      rw [show fault = (decode reporter ambient octets).1 from rfl,
        decode_recognized reporter ambient (recognize?_full full coded)]
    have said : IsSaid octets fault := by
      rw [known]
      exact ⟨rfl, .inl ⟨report, full, rfl, rfl⟩⟩
    refine ⟨?_, ?_, .inl ⟨said, apart said⟩⟩
    · rw [known]
      exact coded
    · rw [known, Report.toFault]
      split
      · exact clock
      · assumption
  · have known : fault = brief.toFault ambient.moment := by
      rw [show fault = (decode reporter ambient octets).1 from rfl,
        decode_recognized reporter ambient (recognize?_brief none simple coded)]
    have said : IsSaid octets fault := by
      rw [known]
      exact ⟨rfl, .inr ⟨brief, simple, rfl, rfl⟩⟩
    refine ⟨?_, ?_, .inl ⟨said, apart said⟩⟩
    · rw [known]
      exact coded
    · rw [known]
      exact clock
  · obtain ⟨wraps, time⟩ := decode_nothing reporter ambient nothing
    have wrapped : ∃ response reason, Wraps reporter octets fault response reason :=
      ⟨_, _, wraps⟩
    refine ⟨?_, ?_, .inr ⟨?_, wrapped, nothing⟩⟩
    · rw [wraps.code]
      decide
    · rw [time]
      exact clock
    · intro said
      exact apart said wrapped

def codedBody : List UInt8 :=
  Text.Utf8.encode ['{', '"', 'e', 'r', 'r', 'o', 'r', 'C', 'o', 'd', 'e', '"', ':', '"', 'x', '"',
    '}']

/-- A body is believed, and the same body without its end is wrapped. -/
theorem decode_total_coded :
    let made := fun octets => (decode quietReporter noonAmbient octets).1
    ((made codedBody).code ≠ "" ∧ (made codedBody).timestamp ≠ "" ∧
        IsSaid codedBody (made codedBody)) ∧
      (made codedBody.dropLast).code ≠ "" ∧ (made codedBody.dropLast).timestamp ≠ "" ∧
        ∃ response reason,
          Wraps quietReporter codedBody.dropLast (made codedBody.dropLast) response reason := by
  intro made
  constructor
  · obtain ⟨code, time, ⟨said, -⟩ | ⟨-, ⟨response, reason, wraps⟩, -⟩⟩ :=
      decode_total quietReporter noonAmbient codedBody (by decide)
    · exact ⟨code, time, said⟩
    · exact absurd wraps.code (by decide +kernel)
  · obtain ⟨code, time, ⟨said, -⟩ | ⟨-, wrapped, -⟩⟩ :=
      decode_total quietReporter noonAmbient codedBody.dropLast (by decide)
    · exact absurd said.1 (by decide +kernel)
    · exact ⟨code, time, wrapped⟩

/-! ## Bodies that are objects -/

/-- The value of a member `error`: an object whose members say message and code. -/
def ErrorSays (node : Node) (content : String × String) : Prop :=
  ∃ start written members, node = .object start written none ∧
    namedMembers? written = some members ∧ InnerShape members content.1 content.2

/-- What the members of an object say when they are read as the brief shape. -/
structure BriefBody (members : List (String × Node)) (brief : Brief) : Prop where
  error : Carries ErrorSays ("", "") (List.lookup "error" members)
    (brief.message, brief.code)
  status : Carries IsStatus 0 (List.lookup "statusCode" members) brief.status

/-- An object that can be read, with these members: none of the fields of either shape
stands there twice, and `error` is no list. -/
structure PlainObject (document : Document) (members : List (String × Node)) : Prop where
  readable : ∃ value, document.datum = .ok value
  root : ∃ start written, document.root = .object start written none ∧
    namedMembers? written = some members
  once : ∀ name ∈ ["errorCode", "timestamp", "statusCode", "message", "data", "stackTrace",
    "error"], (Entries.keys members).count name ≤ 1
  errorOnce : ∀ start written inner,
    List.lookup "error" members = some (.object start written none) →
      namedMembers? written = some inner →
        ∀ name ∈ ["message", "errorCode"], (Entries.keys inner).count name ≤ 1
  errorPlain : ∀ start items reason,
    List.lookup "error" members ≠ some (.list start items reason)

namespace PlainObject

variable {document : Document} {members : List (String × Node)}

theorem excess (plain : PlainObject document members) : document.excess = none := by
  obtain ⟨value, read⟩ := plain.readable
  exact (Document.read_eq_ok.mp read).1

theorem same_members (plain : PlainObject document members) (names : List String) :
    recordMembers? names document.root = some members := by
  obtain ⟨start, written, root, named⟩ := plain.root
  rw [root]
  exact named

theorem values (plain : PlainObject document members) :
    ∀ member ∈ members, ∃ value, member.2.datum (depthLimit - 1) = .ok value := by
  obtain ⟨value, read⟩ := plain.readable
  obtain ⟨start, written, root, named⟩ := plain.root
  have inside := (Document.read_eq_ok.mp read).2
  rw [root, depthLimit, Node.datum, bind_eq_ok] at inside
  obtain ⟨entries, read, -⟩ := inside
  obtain ⟨same, also, values⟩ := named_of_data read
  obtain rfl := Option.some.inj (named.symm.trans also)
  exact values

theorem regular (plain : PlainObject document members) {names : List String}
    (known : ∀ name ∈ names, name ∈ ["errorCode", "timestamp", "statusCode", "message",
      "data", "stackTrace", "error"]) : Regular names [] members where
  once := by
    apply once_of_count
    intro name field
    exact plain.once name (known name field)
  fresh := by simp
  passed := by
    intro member inside unknown
    obtain ⟨value, read⟩ := plain.values member inside
    exact pass_of_datum member.2 read

theorem saysFull_iff (plain : PlainObject document members) {report : Report} :
    SaysFull document report ↔ FullShape members report := by
  constructor
  · rintro ⟨-, others, same, -, shape⟩
    obtain rfl := Option.some.inj ((plain.same_members _).symm.trans same)
    exact shape
  · intro shape
    exact ⟨plain.excess, members, plain.same_members _, plain.regular (by decide), shape⟩

/-- In such an object the inner record is read from an object only. -/
theorem isInner_iff (plain : PlainObject document members) {node : Node}
    (found : List.lookup "error" members = some node) {content : String × String} :
    IsInner node content ↔ ErrorSays node content := by
  constructor
  · rintro ⟨inner, same, -, shape⟩
    cases node with
    | scalar value stop => cases same
    | broken reason => cases same
    | list start items reason => exact absurd found (plain.errorPlain start items reason)
    | object start written reason =>
      cases reason with
      | some reason => cases same
      | none => exact ⟨start, written, inner, rfl, same, shape⟩
  · rintro ⟨start, written, inner, rfl, same, shape⟩
    obtain ⟨value, read⟩ := plain.values _ (Entries.mem_of_lookup found)
    rw [show depthLimit - 1 = 125 + 1 from rfl, Node.datum, bind_eq_ok] at read
    obtain ⟨entries, read, -⟩ := read
    obtain ⟨others, also, values⟩ := named_of_data read
    obtain rfl := Option.some.inj (same.symm.trans also)
    refine ⟨inner, same, ⟨once_of_count ?_, by simp, ?_⟩, shape⟩
    · exact plain.errorOnce start written inner found same
    · intro member inside _
      obtain ⟨value, read⟩ := values member inside
      exact pass_of_datum member.2 read

theorem saysBrief_iff (plain : PlainObject document members) {brief : Brief} :
    SaysBrief document brief ↔ BriefBody members brief := by
  constructor
  · rintro ⟨-, others, same, -, shape⟩
    obtain rfl := Option.some.inj ((plain.same_members _).symm.trans same)
    refine ⟨shape.inner.mono ?_, shape.status⟩
    intro node found
    exact (plain.isInner_iff found).mp
  · intro shape
    refine ⟨plain.excess, members, plain.same_members _, plain.regular (by decide),
      shape.error.mono ?_, shape.status⟩
    intro node found
    exact (plain.isInner_iff found).mpr

end PlainObject

/-- The fault of an object that can be read: what the full shape says if its members have
that shape and a code, else what the brief shape says if they have that one and a code,
else a fault that wraps the value of the object. -/
theorem decode_object (reporter : Reporter) (ambient : Ambient) {octets : List UInt8}
    {members : List (String × Node)} (plain : PlainObject (parse octets) members) :
    let noFull := ∀ report, FullShape members report → report.code = ""
    let noBrief := ∀ brief, BriefBody members brief → brief.code = ""
    (∃ report, FullShape members report ∧ report.code ≠ "" ∧
        decode reporter ambient octets = (report.toFault ambient.moment, [])) ∨
      (noFull ∧ ∃ brief, BriefBody members brief ∧ brief.code ≠ "" ∧
        decode reporter ambient octets = (brief.toFault ambient.moment, [])) ∨
      (noFull ∧ noBrief ∧ ∃ value, (parse octets).datum = .ok value ∧
        Wraps reporter octets (decode reporter ambient octets).1 value .unrecognized) := by
  intro noFull noBrief
  rcases says_cases (parse octets) with
    ⟨report, full, coded⟩ | ⟨none, brief, simple, coded⟩ | nothing
  · exact .inl ⟨report, plain.saysFull_iff.mp full, coded,
      decode_recognized reporter ambient (recognize?_full full coded)⟩
  · refine .inr (.inl ⟨?_, brief, plain.saysBrief_iff.mp simple, coded,
      decode_recognized reporter ambient (recognize?_brief none simple coded)⟩)
    intro report shape
    exact none report (plain.saysFull_iff.mpr shape)
  · refine .inr (.inr ⟨?_, ?_, ?_⟩)
    · intro report shape
      exact nothing.1 report (plain.saysFull_iff.mpr shape)
    · intro brief shape
      exact nothing.2 brief (plain.saysBrief_iff.mpr shape)
    · obtain ⟨value, read⟩ := plain.readable
      exact ⟨value, read, decode_unrecognized reporter ambient nothing read⟩

theorem decode_object_code :
    ∃ report : Report, report.code = "x" ∧
      decode quietReporter noonAmbient codedBody = (report.toFault noonAmbient.moment, []) := by
  have shape : FullShape [("errorCode", .scalar (.text (.ok "x")) 16)]
      { Report.blank with code := "x" } :=
    ⟨.written ⟨16, rfl⟩, .missing, .missing, .missing, .missing, .missing⟩
  have plain : PlainObject (parse codedBody) [("errorCode", .scalar (.text (.ok "x")) 16)] :=
    ⟨⟨.map [("errorCode", .text "x")], rfl⟩, ⟨0, _, rfl, rfl⟩, by decide,
      fun _ _ _ found => by simp [Entries.lookup_cons_ite] at found,
      by simp [Entries.lookup_cons_ite]⟩
  rcases decode_object quietReporter noonAmbient plain with
    ⟨report, full, coded, same⟩ | ⟨noFull, -⟩ | ⟨noFull, -⟩
  · exact ⟨report, congrArg Report.code (full.unique shape), same⟩
  · exact absurd (noFull _ shape) (by decide)
  · exact absurd (noFull _ shape) (by decide)

/-! ## Bodies that are no objects -/

/-- A list that is taken for a shape: its items, under the names of the fields in order,
say a shape with a code. -/
def Mistaken (node : Node) : Prop :=
  ∃ start items, node = .list start items none ∧
    ((items.length ≤ 6 ∧
        ∃ report, FullShape (Report.reader.fieldNames.zip items) report ∧ report.code ≠ "") ∨
      (items.length ≤ 2 ∧
        ∃ brief, SimpleShape (Brief.reader.fieldNames.zip items) brief ∧ brief.code ≠ ""))

/-- A document that can be read and is no object is a list without a break or a scalar. -/
theorem root_cases {document : Document} {value : Datum} (read : document.datum = .ok value)
    (other : ∀ entries, value ≠ .map entries) :
    (∃ start items, document.root = .list start items none) ∨
      ∀ names, recordMembers? names document.root = none := by
  have root := (Document.read_eq_ok.mp read).2
  cases shape : document.root with
  | scalar found stop => exact .inr fun names => rfl
  | broken reason => exact .inr fun names => rfl
  | list start items reason =>
    cases reason with
    | none => exact .inl ⟨start, items, rfl⟩
    | some reason => exact .inr fun names => rfl
  | object start members reason =>
    rw [shape, depthLimit, Node.datum, bind_eq_ok] at root
    obtain ⟨written, -, closed⟩ := root
    obtain ⟨done, -, closed⟩ := bind_eq_ok.mp closed
    exact absurd (Except.ok.inj closed).symm (other _)

section List
variable {document : Document} {start : Nat} {items : List Node}

theorem saysFull_list (excess : document.excess = none)
    (root : document.root = .list start items none) {report : Report} :
    SaysFull document report ↔
      items.length ≤ 6 ∧ FullShape (Report.reader.fieldNames.zip items) report := by
  rw [SaysFull, root, exists_members_list (by decide)]
  exact and_iff_right excess

theorem saysBrief_list (excess : document.excess = none)
    (root : document.root = .list start items none) {brief : Brief} :
    SaysBrief document brief ↔
      items.length ≤ 2 ∧ SimpleShape (Brief.reader.fieldNames.zip items) brief := by
  rw [SaysBrief, root, exists_members_list (by decide)]
  exact and_iff_right excess

end List

theorem saysNothing_iff {document : Document} {value : Datum}
    (read : document.datum = .ok value) (other : ∀ entries, value ≠ .map entries) :
    SaysNothing document ↔ ¬ Mistaken document.root := by
  have excess := (Document.read_eq_ok.mp read).1
  constructor
  · rintro nothing ⟨start, items, root, ⟨short, report, shape, coded⟩ |
      ⟨short, brief, shape, coded⟩⟩
    · exact coded (nothing.1 report ((saysFull_list excess root).mpr ⟨short, shape⟩))
    · exact coded (nothing.2 brief ((saysBrief_list excess root).mpr ⟨short, shape⟩))
  · intro apart
    rcases root_cases read other with ⟨start, items, root⟩ | scalar
    · constructor
      · intro report found
        obtain ⟨short, shape⟩ := (saysFull_list excess root).mp found
        by_contra coded
        exact apart ⟨start, items, root, .inl ⟨short, report, shape, coded⟩⟩
      · intro brief found
        obtain ⟨short, shape⟩ := (saysBrief_list excess root).mp found
        by_contra coded
        exact apart ⟨start, items, root, .inr ⟨short, brief, shape, coded⟩⟩
    · constructor
      · intro report found
        obtain ⟨-, members, same, -⟩ := found
        rw [scalar] at same
        cases same
      · intro brief found
        obtain ⟨-, members, same, -⟩ := found
        rw [scalar] at same
        cases same

/-- A body that is no object is wrapped as a whole, unless it is a list that is taken for a
shape. -/
theorem decode_no_object (reporter : Reporter) (ambient : Ambient) {octets : List UInt8}
    {value : Datum} (read : (parse octets).datum = .ok value)
    (other : ∀ entries, value ≠ .map entries) :
    Wraps reporter octets (decode reporter ambient octets).1 value .unrecognized ↔
      ¬ Mistaken (parse octets).root := by
  rw [← saysNothing_iff read other]
  constructor
  · intro wraps
    rcases says_cases (parse octets) with
      ⟨report, full, coded⟩ | ⟨none, brief, simple, coded⟩ | nothing
    · have cause := wraps.cause
      rw [decode_recognized reporter ambient (recognize?_full full coded)] at cause
      cases cause
    · have cause := wraps.cause
      rw [decode_recognized reporter ambient (recognize?_brief none simple coded)] at cause
      cases cause
    · exact nothing
  · intro nothing
    exact decode_unrecognized reporter ambient nothing read

/-- The body `[""]` has the full shape, but no code, and is wrapped. -/
theorem decode_no_object_uncoded :
    Wraps quietReporter [91, 34, 34, 93]
      (decode quietReporter noonAmbient [91, 34, 34, 93]).1 (.list [.text ""]) .unrecognized := by
  have read : (parse [91, 34, 34, 93]).datum = .ok (.list [.text ""]) := rfl
  have list : (parse [91, 34, 34, 93]).root =
      .list 0 [.scalar (.text (.ok "")) 3] none := rfl
  refine (decode_no_object quietReporter noonAmbient read (by simp)).mpr ?_
  rintro ⟨start, items, root, said⟩
  rw [list] at root
  cases root
  rcases said with ⟨-, report, shape, coded⟩ | ⟨-, brief, shape, -⟩
  · have code : Except.ok "" = Except.ok report.code := orText_eq_ok.mpr shape.code
    exact coded (Except.ok.inj code).symm
  · have inner : Carries IsInner ("", "") (some (.scalar (.text (.ok "")) 3))
        (brief.message, brief.code) := shape.inner
    cases inner with
    | written is =>
      obtain ⟨members, none, -⟩ := is
      cases none

/-- Not every list is wrapped: the body `["x"]` is taken for a full shape. -/
theorem list_taken_for_fault :
    ¬ ∀ (reporter : Reporter) (ambient : Ambient) (octets : List UInt8) (value : Datum),
      (parse octets).datum = .ok value → (∀ entries, value ≠ .map entries) →
        Wraps reporter octets (decode reporter ambient octets).1 value .unrecognized := by
  intro all
  have wraps := all ⟨.builtin, .detached⟩ ⟨⟨"2024-05-01T10:00:00Z", ""⟩, .off⟩
    (Text.Utf8.encode ['[', '"', 'x', '"', ']']) (.list [.text "x"]) rfl (by simp)
  exact absurd wraps.cause (by decide +kernel)

end Inbound

end FaultMesh
