import FaultMesh.Probe
import FaultMesh.Proofs.Inbound
import FaultMesh.Proofs.Json.RoundTrip

/-!
# Faults that are passed on

A service that fails sends its fault to the caller, which makes a fault of it again and may
send that one on.  One hop in debug mode keeps all but the cause; one in production keeps
the code, the status and one message.  What a chain of hops keeps follows by induction.
-/

set_option autoImplicit false

namespace FaultMesh

open FaultMesh.Json
open FaultMesh.Inbound

structure Hop where
  debug : Bool
  locale : String
  reporter : Reporter
  ambient : Ambient

/-- The fault behind a hop. -/
def Hop.relay (hop : Hop) (fault : Fault) : Fault :=
  (decode hop.reporter hop.ambient (Text.Utf8.encode (fault.body hop.debug hop.locale))).1

/-- The fault behind some hops. -/
def relayAll (hops : List Hop) (fault : Fault) : Fault :=
  hops.foldl (fun fault hop => hop.relay fault) fault

/-- A fault that can be sent and read: it has a code, maps hold each key once, and its full
shape does not nest deeper than what is read. -/
structure Sendable (fault : Fault) : Prop where
  coded : fault.code ≠ ""
  keyed : Datum.KeyedEntries fault.data.entries
  shallow : fault.datum.depth ≤ depthLimit

/-- Data whose numbers were written and read. -/
def rereadData (data : Data) : Data := data.mapValues (Datum.mapNumbers reread)

@[simp] theorem entries_rereadData (data : Data) :
    (rereadData data).entries = Datum.mapNumbersOfEntries reread data.entries :=
  (Datum.mapNumbersOfEntries_eq reread data.entries).symm

theorem depthOfEntries_texts (texts : List (String × String)) :
    Datum.depthOfEntries (texts.map fun (key, content) => (key, Datum.text content)) = 0 := by
  induction texts with
  | nil => rfl
  | cons entry texts ih => simp [Datum.depthOfEntries, Datum.depth, ih]

theorem depth_datum (fault : Fault) :
    fault.datum.depth = Datum.depthOfEntries fault.data.entries + 2 := by
  have texts := depthOfEntries_texts fault.messages.entries
  rw [Fault.datum, ofNat_status]
  simp only [OrderedMap.mapValues]
  cases fault.stack.rendered? with
  | none => simp [Datum.depth, Datum.depthOfEntries, texts]
  | some text => simp [Datum.depth, Datum.depthOfEntries, texts]

/-! ## One hop -/

section OneHop
variable (fault : Fault)

def Fault.report : Report where
  code := fault.code
  timestamp := fault.timestamp
  status := fault.status
  messages := fault.messages
  data := rereadData fault.data
  stack := fault.stack.rendered?

def Fault.entries : List (String × Datum) :=
  [("errorCode", .text fault.code),
   ("timestamp", .text fault.timestamp),
   ("statusCode", .number (.whole fault.status.toNat (.inr (fits_status fault.status)))),
   ("message", .map (fault.messages.mapValues .text).entries),
   ("data", .map fault.data.entries)] ++
  match fault.stack.rendered? with
  | some text => [("stackTrace", .text text)]
  | none => []

theorem Fault.datum_eq : fault.datum = .map fault.entries := by
  cases known : fault.stack.rendered? with
  | none => simp only [Fault.datum, Fault.entries, ofNat_status, known]
  | some text => simp only [Fault.datum, Fault.entries, ofNat_status, known]

theorem fullShape_entries (sendable : Sendable fault) {members : List (String × Node)}
    (found : ∀ key, match List.lookup key fault.entries with
      | none => List.lookup key members = none
      | some value => ∃ node, List.lookup key members = some node ∧ Shows value node) :
    FullShape members fault.report where
  code := by
    obtain ⟨node, inside, shows⟩ := found "errorCode"
    rw [inside]
    exact .written (isText_of_shows shows)
  timestamp := by
    obtain ⟨node, inside, shows⟩ := found "timestamp"
    rw [inside]
    exact .written (isText_of_shows shows)
  status := by
    obtain ⟨node, inside, shows⟩ := found "statusCode"
    rw [inside]
    exact .written (isStatus_of_shows shows)
  messages := by
    obtain ⟨node, inside, shows⟩ := found "message"
    rw [inside]
    exact .written (isTexts_of_shows shows)
  data := by
    obtain ⟨node, inside, shows⟩ := found "data"
    rw [inside]
    refine .written ?_
    have shallow := sendable.shallow
    rw [depth_datum] at shallow
    have read := datum_of_shows (.map fault.data.entries) node (depthLimit - 1) shows
      ⟨fault.data.nodup, sendable.keyed⟩ (by rw [Datum.depth]; omega)
    rw [IsData, read, Fault.report, entries_rereadData, Datum.mapNumbers]
  stack := by
    have shown := found "stackTrace"
    unfold Fault.entries at shown
    unfold Fault.report
    cases known : fault.stack.rendered? with
    | none =>
      rw [known] at shown
      have missing : List.lookup "stackTrace" members = none := shown
      rw [missing]
      exact .missing
    | some text =>
      rw [known] at shown
      obtain ⟨node, inside, shows⟩ := shown
      rw [inside]
      exact .written ⟨text, isText_of_shows shows, rfl⟩

theorem keys_entries :
    (Entries.keys fault.entries).Nodup ∧
      ∀ key ∈ Entries.keys fault.entries, key ∈ Report.reader.fieldNames := by
  unfold Fault.entries
  cases fault.stack.rendered? with
  | none => simp [Entries.keys, RecordReader.fieldNames, Report.reader]
  | some text => simp [Entries.keys, RecordReader.fieldNames, Report.reader]

theorem saysFull_sent (sendable : Sendable fault) :
    SaysFull (parse (Text.Utf8.encode (write fault.datum))) fault.report := by
  obtain ⟨root, parsed, shows⟩ := parse_written fault.datum
  rw [Fault.datum_eq] at shows
  obtain ⟨start, members, rfl, shows⟩ := shows
  obtain ⟨named, same, keys, found⟩ := named_of_shows shows
  obtain ⟨distinct, known⟩ := keys_entries fault
  rw [← keys] at distinct known
  rw [parsed]
  exact ⟨rfl, named, same, regular_of_keys distinct known,
    fullShape_entries fault sendable found⟩

/-- A hop in debug mode drops the cause and rereads the numbers. -/
theorem relay_debug {hop : Hop} (debug : hop.debug = true) (sendable : Sendable fault) :
    hop.relay fault = fault.report.toFault hop.ambient.moment := by
  have full := saysFull_sent fault sendable
  rw [Hop.relay, Fault.body, Fault.project, debug]
  exact congrArg Prod.fst
    (decode_recognized hop.reporter hop.ambient (recognize?_full full sendable.coded))

def Brief.entries (brief : Brief) : List (String × Datum) :=
  [("error", .map [("message", .text brief.message), ("errorCode", .text brief.code)]),
   ("statusCode", .number (.whole brief.status.toNat (.inr (fits_status brief.status))))]

theorem Brief.datum_eq (brief : Brief) : brief.datum = .map brief.entries := by
  rw [Brief.datum, Brief.entries, ofNat_status]

theorem isInner_of_shows {message code : String} {node : Node}
    (shows : Shows (.map [("message", .text message), ("errorCode", .text code)]) node) :
    IsInner node (message, code) := by
  obtain ⟨start, members, rfl, shows⟩ := shows
  obtain ⟨named, same, keys, found⟩ := named_of_shows shows
  refine ⟨named, same, ?_, ?_, ?_⟩
  · refine regular_of_keys ?_ ?_
    · rw [keys]
      exact (by decide : ["message", "errorCode"].Nodup)
    · rw [keys]
      intro key inside
      exact inside
  · obtain ⟨node, inside, shows⟩ := found "message"
    rw [inside]
    exact .written (isText_of_shows shows)
  · obtain ⟨node, inside, shows⟩ := found "errorCode"
    rw [inside]
    exact .written (isText_of_shows shows)

theorem says_sent (brief : Brief) :
    (∀ report, SaysFull (parse (Text.Utf8.encode (write brief.datum))) report →
        report.code = "") ∧
      SaysBrief (parse (Text.Utf8.encode (write brief.datum))) brief := by
  obtain ⟨root, parsed, shows⟩ := parse_written brief.datum
  rw [Brief.datum_eq] at shows
  obtain ⟨start, members, rfl, shows⟩ := shows
  obtain ⟨named, same, keys, found⟩ := named_of_shows shows
  rw [parsed]
  constructor
  · rintro report ⟨-, others, also, -, shape⟩
    obtain rfl := Option.some.inj (same.symm.trans also)
    have missing : List.lookup "errorCode" named = none := found "errorCode"
    have code := shape.code
    rw [missing] at code
    exact code.of_none
  · refine ⟨rfl, named, same, ?_, ?_, ?_⟩
    · refine regular_of_keys ?_ ?_
      · rw [keys]
        exact (by decide : ["error", "statusCode"].Nodup)
      · rw [keys]
        intro key inside
        exact inside
    · obtain ⟨node, inside, shows⟩ := found "error"
      rw [inside]
      exact .written (isInner_of_shows shows)
    · obtain ⟨node, inside, shows⟩ := found "statusCode"
      rw [inside]
      exact .written (isStatus_of_shows shows)

/-- A hop in production keeps the code, the status and one message. -/
theorem relay_production {hop : Hop} (production : hop.debug = false)
    (coded : fault.code ≠ "") :
    hop.relay fault = (fault.brief hop.locale).toFault hop.ambient.moment := by
  obtain ⟨none, simple⟩ := says_sent (fault.brief hop.locale)
  rw [Hop.relay, Fault.body, Fault.project, production]
  exact congrArg Prod.fst
    (decode_recognized hop.reporter hop.ambient (recognize?_brief none simple coded))

end OneHop

/-! ## Chains of hops -/

/-- What every hop keeps: the identity of a fault, and that it can be sent. -/
structure Kept (fault final : Fault) : Prop where
  identity : final.identity = fault.identity
  sendable : Sendable final

theorem relay_kept (hop : Hop) {fault : Fault} (sendable : Sendable fault) :
    Kept fault (hop.relay fault) ∧ (hop.relay fault).cause = none := by
  cases debug : hop.debug with
  | true =>
    rw [relay_debug fault debug sendable]
    refine ⟨⟨rfl, sendable.coded, ?_, ?_⟩, rfl⟩
    · simp only [Report.toFault, Fault.report, entries_rereadData]
      exact Datum.keyedEntries_mapNumbers reread _ sendable.keyed
    · have shallow := sendable.shallow
      rw [depth_datum] at shallow ⊢
      simpa only [Report.toFault, Fault.report, entries_rereadData,
        Datum.depthOfEntries_mapNumbers] using shallow
  | false =>
    rw [relay_production fault debug sendable.coded]
    refine ⟨⟨rfl, sendable.coded, trivial, ?_⟩, rfl⟩
    rw [depth_datum]
    exact (by decide : Datum.depthOfEntries [] + 2 ≤ depthLimit)

theorem relayAll_kept (hops : List Hop) {fault : Fault} (sendable : Sendable fault) :
    Kept fault (relayAll hops fault) ∧ (hops ≠ [] → (relayAll hops fault).cause = none) := by
  induction hops generalizing fault with
  | nil => exact ⟨⟨rfl, sendable⟩, fun some => absurd rfl some⟩
  | cons hop hops ih =>
    obtain ⟨first, caused⟩ := relay_kept hop sendable
    obtain ⟨others, later⟩ := ih first.sendable
    refine ⟨⟨others.identity.trans first.identity, others.sendable⟩, fun _ => ?_⟩
    cases hops with
    | nil => exact caused
    | cons next hops => exact later (by simp)

/-- What hops in debug mode keep besides, and how often they reread the numbers. -/
structure KeptWhole (times : Nat) (fault final : Fault) : Prop where
  timestamp : final.timestamp = fault.timestamp
  messages : final.messages = fault.messages
  stack : final.stack.rendered? = fault.stack.rendered?
  data : final.data = rereadData^[times] fault.data

theorem rendered?_received (stack : StackTrace) :
    (match stack.rendered? with
      | some text => StackTrace.remote text
      | none => StackTrace.empty).rendered? = stack.rendered? := by
  cases known : stack.rendered? with
  | none => rfl
  | some text =>
    have some : text ≠ "" := by
      unfold StackTrace.rendered? at known
      split at known
      next holds => exact Option.some.inj known ▸ holds.2
      next => cases known
    simp [StackTrace.rendered?, StackTrace.remote, some]

theorem relay_whole {hop : Hop} (debug : hop.debug = true) {fault : Fault}
    (sendable : Sendable fault) (dated : fault.timestamp ≠ "") :
    KeptWhole 1 fault (hop.relay fault) := by
  rw [relay_debug fault debug sendable]
  exact ⟨if_neg dated, rfl, rendered?_received fault.stack, rfl⟩

theorem relayAll_whole {hops : List Hop} (debug : ∀ hop ∈ hops, hop.debug = true)
    {fault : Fault} (sendable : Sendable fault) (dated : fault.timestamp ≠ "") :
    KeptWhole hops.length fault (relayAll hops fault) := by
  induction hops generalizing fault with
  | nil => exact ⟨rfl, rfl, rfl, rfl⟩
  | cons hop hops ih =>
    have first := relay_whole (debug hop List.mem_cons_self) sendable dated
    have others := ih (fun next inside => debug next (List.mem_cons_of_mem _ inside))
      (relay_kept hop sendable).1.sendable (first.timestamp ▸ dated)
    exact ⟨others.timestamp.trans first.timestamp, others.messages.trans first.messages,
      others.stack.trans first.stack, others.data.trans (congrArg _ first.data)⟩

structure Reduced (message : String) (fault : Fault) : Prop where
  messages : fault.messages = .ofList [(defaultLocale, message)]
  data : fault.data = .empty
  stack : fault.stack.text = ""

theorem Reduced.message {message : String} {fault : Fault} (reduced : Reduced message fault)
    (locale : String) : fault.message locale = message := by
  rw [Fault.message, reduced.messages]
  by_cases default : locale = defaultLocale
  · simp [Fault.messageIn, OrderedMap.get?, Entries.ofList, Entries.insert, default]
  · simp [Fault.messageIn, OrderedMap.get?, Entries.ofList, Entries.insert, default]

theorem relay_reduces {hop : Hop} (production : hop.debug = false) {fault : Fault}
    (coded : fault.code ≠ "") : Reduced (fault.message hop.locale) (hop.relay fault) := by
  rw [relay_production fault production coded]
  exact ⟨rfl, rfl, rfl⟩

theorem relay_reduced (hop : Hop) {message : String} {fault : Fault}
    (sendable : Sendable fault) (reduced : Reduced message fault) :
    Reduced message (hop.relay fault) := by
  cases debug : hop.debug with
  | true =>
    rw [relay_debug fault debug sendable]
    refine ⟨reduced.messages, ?_, ?_⟩
    · simp only [Report.toFault, Fault.report, reduced.data]
      rfl
    · simp [Report.toFault, Fault.report, StackTrace.rendered?, reduced.stack, StackTrace.empty]
  | false =>
    have reduces := relay_reduces debug sendable.coded
    rwa [reduced.message] at reduces

theorem relayAll_reduced (hops : List Hop) {message : String} {fault : Fault}
    (sendable : Sendable fault) (reduced : Reduced message fault) :
    Reduced message (relayAll hops fault) := by
  induction hops generalizing fault with
  | nil => exact reduced
  | cons hop hops ih =>
    exact ih (relay_kept hop sendable).1.sendable (relay_reduced hop sendable reduced)

/-! ## Data and octets -/

theorem entries_rereadData_iterate (times : Nat) (data : Data) :
    (rereadData^[times] data).entries =
      Datum.mapNumbersOfEntries reread^[times] data.entries := by
  induction times with
  | zero => exact (Datum.mapNumbersOfEntries_id data.entries).symm
  | succ times ih =>
    rw [Function.iterate_succ_apply', entries_rereadData, ih,
      Datum.mapNumbersOfEntries_mapNumbers, Function.iterate_succ']

/-- Data stay as they are exactly when each of their reals does. -/
theorem rereadData_eq_self_iff (times : Nat) (data : Data) :
    rereadData^[times] data = data ↔
      ∀ x, .real x ∈ Datum.numbersOfEntries data.entries →
        reread^[times] (.real x) = .real x := by
  have numbers : rereadData^[times] data = data ↔
      ∀ number ∈ Datum.numbersOfEntries data.entries, reread^[times] number = number := by
    rw [← Datum.mapNumbersOfEntries_eq_self_iff, ← entries_rereadData_iterate]
    exact ⟨congrArg OrderedMap.entries, OrderedMap.ext_entries⟩
  rw [numbers]
  constructor
  · intro all x inside
    exact all _ inside
  · intro reals number inside
    cases number with
    | whole value fits => exact Function.iterate_fixed (reread_whole value fits) times
    | real x => exact reals x inside

theorem body_congr {fault final : Fault} (identity : final.identity = fault.identity)
    {times : Nat} (whole : KeptWhole times fault final) (data : final.data = fault.data)
    (debug : Bool) (locale : String) : final.body debug locale = fault.body debug locale := by
  obtain ⟨code, status⟩ := Identity.mk.inj identity
  have full : final.datum = fault.datum := by
    rw [Fault.datum, Fault.datum, code, status, whole.timestamp, whole.messages, data,
      whole.stack]
  have brief : final.brief locale = fault.brief locale := by
    rw [Fault.brief, Fault.brief, code, status, Fault.message, Fault.message, whole.messages]
  rw [Fault.body, Fault.body, Fault.project, Fault.project, full, brief]

/-- What a chain of hops keeps of a fault.  Code, status and component stay, and with them
what probes see; the cause is gone.  In debug mode all else stays too, but reals are read
in the quick way at each hop, so that data stay exactly when their reals come back.  From
the first hop in production on one message is left, and neither data nor stack. -/
theorem relayAll_keeps (fault : Fault) (hops : List Hop) (sendable : Sendable fault)
    (dated : fault.timestamp ≠ "") :
    let final := relayAll hops fault
    (final.code = fault.code ∧ final.status = fault.status ∧
        final.component = fault.component ∧
        (∀ (probe : Probe) (locale : String),
          probe.accepts final.identity = probe.accepts fault.identity ∧
            probe.accepts final.identity = probe.accepts (fault.brief locale).identity) ∧
        (hops ≠ [] → final.cause = none)) ∧
      ((∀ hop ∈ hops, hop.debug = true) →
        final.timestamp = fault.timestamp ∧ final.messages = fault.messages ∧
          final.stack.rendered? = fault.stack.rendered? ∧
          final.data.entries =
            Datum.mapNumbersOfEntries reread^[hops.length] fault.data.entries ∧
          (final.data = fault.data ↔ ∀ x, .real x ∈ Datum.numbersOfEntries fault.data.entries →
            reread^[hops.length] (.real x) = .real x) ∧
          (final.data = fault.data → ∀ debug locale,
            final.body debug locale = fault.body debug locale)) ∧
      ∀ before hop after, hops = before ++ hop :: after →
        (∀ earlier ∈ before, earlier.debug = true) → hop.debug = false →
          final.messages = .ofList [(defaultLocale, fault.message hop.locale)] ∧
            final.data = .empty ∧ final.stack.text = "" := by
  intro final
  obtain ⟨kept, caused⟩ := relayAll_kept hops sendable
  obtain ⟨code, status⟩ := Identity.mk.inj kept.identity
  refine ⟨⟨code, status, congrArg Code.component code, ?_, caused⟩, ?_, ?_⟩
  · intro probe locale
    exact ⟨congrArg probe.accepts kept.identity, congrArg probe.accepts kept.identity⟩
  · intro debug
    have whole := relayAll_whole debug sendable dated
    refine ⟨whole.timestamp, whole.messages, whole.stack, ?_, ?_, ?_⟩
    · rw [whole.data, entries_rereadData_iterate]
    · rw [whole.data, rereadData_eq_self_iff]
    · exact fun data => body_congr kept.identity whole data
  · -- the hops before this one are in debug mode, and those behind it find one message
    intro before hop after chain debug production
    have first := relayAll_whole debug sendable dated
    have sent := (relayAll_kept before sendable).1.sendable
    have reduced := relay_reduces production sent.coded
    rw [show (relayAll before fault).message hop.locale = fault.message hop.locale by
      rw [Fault.message, Fault.message, first.messages]] at reduced
    have last := relayAll_reduced after (relay_kept hop sent).1.sendable reduced
    have whole : final = relayAll after (hop.relay (relayAll before fault)) := by
      rw [show final = relayAll hops fault from rfl, chain]
      simp [relayAll]
    rw [whole]
    exact ⟨last.messages, last.data, last.stack⟩

/-- A hop in debug mode and one in production: the code stays, and the data are gone. -/
theorem relayAll_keeps_two :
    let fault : Fault :=
      { Fault.minimal ⟨"2024-05-01T10:00:00Z", ""⟩ "users.404.Missing" 404 "m" with
        data := .ofList [("Id", .text "7")] }
    let first : Hop := ⟨true, "en", ⟨.builtin, .detached⟩, ⟨⟨"2024-05-01T10:00:01Z", ""⟩, .off⟩⟩
    let second : Hop := { first with debug := false }
    Sendable fault ∧ fault.timestamp ≠ "" ∧
      (relayAll [first, second] fault).code = "users.404.Missing" ∧
        (relayAll [first] fault).timestamp = "2024-05-01T10:00:00Z" ∧
          (relayAll [first, second] fault).data = .empty := by
  intro fault first second
  have sendable : Sendable fault := by
    refine ⟨by decide, ⟨trivial, trivial⟩, ?_⟩
    rw [depth_datum]
    exact (by decide : Datum.depthOfEntries [("Id", .text "7")] + 2 ≤ depthLimit)
  have dated : fault.timestamp ≠ "" := by decide
  obtain ⟨same, -, reduced⟩ := relayAll_keeps fault [first, second] sendable dated
  obtain ⟨-, whole, -⟩ := relayAll_keeps fault [first] sendable dated
  have debug : ∀ hop ∈ [first], hop.debug = true := by simp [first]
  exact ⟨sendable, dated, same.1, (whole debug).1, (reduced [first] second [] rfl debug rfl).2.1⟩

/-- Not every real comes back: the double `0.09090909090909091` is read as its neighbour. -/
theorem reals_drift :
    ¬ ∀ (fault : Fault) (hops : List Hop), Sendable fault → fault.timestamp ≠ "" →
      (∀ hop ∈ hops, hop.debug = true) → (relayAll hops fault).data = fault.data := by
  intro all
  obtain ⟨ratio, drifts⟩ : ∃ ratio, reread (.real ratio) ≠ .real ratio :=
    ⟨⟨0x3fb745d1745d1746, by decide⟩, by decide +kernel⟩
  let fault : Fault :=
    { Fault.minimal ⟨"2024-05-01T10:00:00Z", ""⟩ "svc.500.Ratio" 500 "m" with
      data := .ofList [("Ratio", .number (.real ratio))] }
  let hop : Hop := ⟨true, "en", ⟨.builtin, .detached⟩, ⟨⟨"2024-05-01T10:00:00Z", ""⟩, .off⟩⟩
  have sendable : Sendable fault := by
    refine ⟨(by decide : "svc.500.Ratio" ≠ ""), ⟨trivial, trivial⟩, ?_⟩
    rw [depth_datum]
    exact (by simp [Datum.depthOfEntries, Datum.depth, depthLimit] :
      Datum.depthOfEntries [("Ratio", .number (.real ratio))] + 2 ≤ depthLimit)
  have dated : fault.timestamp ≠ "" := (by decide : "2024-05-01T10:00:00Z" ≠ "")
  have debug : ∀ next ∈ [hop], next.debug = true := by simp [hop]
  have kept := all fault [hop] sendable dated debug
  rw [(relayAll_whole debug sendable dated).data, rereadData_eq_self_iff] at kept
  exact drifts (kept ratio List.mem_cons_self)

end FaultMesh
