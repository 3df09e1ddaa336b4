import FaultMesh.Proofs.Json.Nesting
import FaultMesh.Proofs.Relay

/-!
# Passing on what was received

Whatever a service received it can send on, and the next service reads the same fault: code
and status always, and all else too, unless the body was wrapped and nests so deep that two
levels more are beyond what is read.
-/

set_option autoImplicit false

namespace FaultMesh

open FaultMesh.Json
open FaultMesh.Inbound

section Received
variable {reporter : Reporter} {ambient : Ambient} {octets : List UInt8} {fault : Fault}
  {response : Datum} {reason : Foreign}

theorem keyed_of_keeps (keeps : Keeps octets response reason) : response.Keyed := by
  rcases keeps with ⟨read, -⟩ | ⟨problem, -, rfl, -⟩
  · exact keyed_of_datum _ _ (Document.read_eq_ok.mp read).2
  · trivial

theorem keyed_of_wraps (wraps : Wraps reporter octets fault response reason) :
    Datum.KeyedEntries fault.data.entries := by
  rw [wraps.data]
  refine ⟨keyed_of_keeps wraps.keeps, ?_⟩
  split
  · exact ⟨trivial, trivial, trivial, trivial, trivial, trivial⟩
  · exact ⟨trivial, trivial⟩

/-- A wrapped body lies two levels below the document that is sent. -/
theorem depth_of_wraps (wraps : Wraps reporter octets fault response reason) :
    fault.datum.depth = response.depth + 2 := by
  rw [depth_datum, wraps.data]
  split
  · simp [Datum.depthOfEntries, Datum.depth, RequestContext.debugEntries]
  · simp [Datum.depthOfEntries, Datum.depth]

/-- A fault in the full shape was read one level below its data, as it is sent again. -/
theorem sendable_of_full {members : List (String × Node)} {report : Report}
    (shape : FullShape members report) (coded : report.code ≠ "") (moment : Moment) :
    Sendable (report.toFault moment) := by
  have within : Datum.KeyedEntries report.data.entries ∧
      Datum.depthOfEntries report.data.entries + 1 ≤ depthLimit - 1 := by
    rcases shape.data.default_or with empty | ⟨node, -, read⟩
    · rw [empty]
      exact ⟨trivial, by decide⟩
    · exact ⟨(keyed_of_datum node _ read).2, depth_of_datum node _ read⟩
  refine ⟨coded, within.1, ?_⟩
  rw [depth_datum]
  have bound := within.2
  simp only [Report.toFault]
  omega

theorem sendable_of_brief {brief : Brief} (coded : brief.code ≠ "") (moment : Moment) :
    Sendable (brief.toFault moment) := by
  refine ⟨coded, trivial, ?_⟩
  rw [depth_datum]
  exact (by decide : Datum.depthOfEntries [] + 2 ≤ depthLimit)

/-- What was received can be sent, unless it wraps too deep a body. -/
theorem decode_sendable (reporter : Reporter) (ambient : Ambient) (octets : List UInt8) :
    Sendable (decode reporter ambient octets).1 ∨
      ∃ response reason, Wraps reporter octets (decode reporter ambient octets).1 response reason ∧
        depthLimit < response.depth + 2 := by
  rcases says_cases (parse octets) with
    ⟨report, full, coded⟩ | ⟨none, brief, simple, coded⟩ | nothing
  · rw [decode_recognized reporter ambient (recognize?_full full coded)]
    obtain ⟨-, members, -, -, shape⟩ := full
    exact .inl (sendable_of_full shape coded ambient.moment)
  · rw [decode_recognized reporter ambient (recognize?_brief none simple coded)]
    exact .inl (sendable_of_brief coded ambient.moment)
  · have wraps := (decode_nothing reporter ambient nothing).1
    by_cases deep : depthLimit < (foreign octets (parse octets)).1.depth + 2
    · exact .inr ⟨_, _, wraps, deep⟩
    · refine .inl ⟨?_, keyed_of_wraps wraps, ?_⟩
      · rw [wraps.code]
        decide
      · rw [depth_of_wraps wraps]
        omega

theorem shallow_of_sendable (sendable : Sendable fault)
    (wraps : Wraps reporter octets fault response reason) : response.depth + 2 ≤ depthLimit :=
  depth_of_wraps wraps ▸ sendable.shallow

theorem relay_data_iff {hop : Hop} (debug : hop.debug = true) (sendable : Sendable fault) :
    (hop.relay fault).data = fault.data ↔
      ∀ x, .real x ∈ Datum.numbersOfEntries fault.data.entries → reread (.real x) = .real x := by
  have fixed := rereadData_eq_self_iff 1 fault.data
  simp only [Function.iterate_one] at fixed
  rw [relay_debug fault debug sendable]
  exact fixed

theorem decode_dated (reporter : Reporter) (ambient : Ambient) (octets : List UInt8)
    (clock : ambient.moment.now ≠ "") : (decode reporter ambient octets).1.timestamp ≠ "" :=
  (decode_total reporter ambient octets clock).2.1

end Received

/-! ## What is too deep to be read again -/

section Deep
variable (fault : Fault)

/-- The text of a fault that nests too deep is neither shape, and is no document. -/
theorem unread_of_deep (deep : depthLimit < fault.datum.depth) :
    SaysNothing (parse (Text.Utf8.encode (write fault.datum))) ∧
      ∃ problem, (parse (Text.Utf8.encode (write fault.datum))).datum = .error problem := by
  obtain ⟨root, parsed, shows⟩ := parse_written fault.datum
  rw [parsed]
  constructor
  · rw [Fault.datum_eq] at shows
    obtain ⟨start, members, rfl, shows⟩ := shows
    obtain ⟨named, same, keys, found⟩ := named_of_shows shows
    constructor
    · rintro report ⟨-, others, also, -, shape⟩
      obtain rfl := Option.some.inj (same.symm.trans also)
      -- the data are there, and are no null, but nest beyond the limit
      obtain ⟨node, inside, shown⟩ := found "data"
      have data := shape.data
      rw [inside] at data
      generalize report.data = read at data
      cases data with
      | null stop =>
        obtain ⟨_, _, scalar, -⟩ := shown
        cases scalar
      | written read =>
        have shallow := depth_of_shows _ node _ shown read
        rw [Datum.depth] at shallow
        rw [depth_datum] at deep
        simp only [depthLimit] at shallow deep
        omega
    · rintro brief ⟨-, others, also, -, shape⟩
      obtain rfl := Option.some.inj (same.symm.trans also)
      have absent : List.lookup "error" fault.entries = none := by
        unfold Fault.entries
        cases fault.stack.rendered? with
        | none => rfl
        | some text => rfl
      have missing := found "error"
      rw [absent] at missing
      have inner := shape.inner
      rw [missing] at inner
      exact (Prod.mk.inj inner.of_none).2
  · cases read : (⟨root, none⟩ : Document).datum with
    | error problem => exact ⟨problem, rfl⟩
    | ok value =>
      have shallow := depth_of_shows _ root _ shows (Document.read_eq_ok.mp read).2
      omega

/-- A fault that nests too deep arrives as a wrapped text: that of its document. -/
theorem relay_deep {hop : Hop} (debug : hop.debug = true) (deep : depthLimit < fault.datum.depth) :
    ∃ problem, Wraps hop.reporter (Text.Utf8.encode (fault.body true hop.locale))
        (hop.relay fault) (.text (String.ofList (fault.body true hop.locale)))
        (.malformed problem) := by
  obtain ⟨nothing, problem, unread⟩ := unread_of_deep fault deep
  have wraps := (decode_nothing hop.reporter hop.ambient nothing).1
  have kept : foreign (Text.Utf8.encode (write fault.datum))
      (parse (Text.Utf8.encode (write fault.datum))) =
        (.text (String.ofList (write fault.datum)),
          .malformed (problem.message (Text.Utf8.encode (write fault.datum)))) := by
    rw [foreign, unread, Text.Utf8.decodeLossy_encode]
  rw [kept] at wraps
  refine ⟨problem.message (Text.Utf8.encode (write fault.datum)), ?_⟩
  rw [Hop.relay, debug]
  exact wraps

theorem relay_deep_changes {hop : Hop} (debug : hop.debug = true)
    (deep : depthLimit < fault.datum.depth) : (hop.relay fault).data ≠ fault.data := by
  intro same
  obtain ⟨problem, arrived⟩ := relay_deep fault debug deep
  have depth := depth_of_wraps arrived
  rw [depth_datum, same, ← depth_datum] at depth
  rw [depth] at deep
  simp [Datum.depth, depthLimit] at deep

theorem data_of_deep (reporter : Reporter) (ambient : Ambient) (locale : String)
    (deep : depthLimit < fault.datum.depth) :
    (decode reporter ambient (Text.Utf8.encode (fault.body true locale))).1.data ≠ fault.data := by
  have relayed : (decode reporter ambient (Text.Utf8.encode (fault.body true locale))).1 =
      Hop.relay ⟨true, locale, reporter, ambient⟩ fault := rfl
  rw [relayed]
  exact relay_deep_changes fault rfl deep

end Deep

/-! ## Two services -/

/-- What a service makes of a body it passes on in debug mode, and what the next one makes
of that.  Code and status are the same.  All else is too if and only if no wrapped body
nests too deep to be sent and all reals come back; short of that, a body that nests too deep
arrives as the text of the document that was sent. -/
theorem passed_on (first second : Reporter) (here there : Ambient) (locale : String)
    (octets : List UInt8) (clock : here.moment.now ≠ "") :
    let fault := (decode first here octets).1
    let sent := Text.Utf8.encode (fault.body true locale)
    let final := (decode second there sent).1
    (final.code = fault.code ∧ final.status = fault.status) ∧
      ((final.timestamp = fault.timestamp ∧ final.messages = fault.messages ∧
          final.data = fault.data) ↔
        (∀ response reason, Wraps first octets fault response reason →
            response.depth + 2 ≤ depthLimit) ∧
          ∀ x, .real x ∈ Datum.numbersOfEntries fault.data.entries →
            reread (.real x) = .real x) ∧
      ((∀ response reason, Wraps first octets fault response reason →
            response.depth + 2 ≤ depthLimit) →
        final.timestamp = fault.timestamp ∧ final.messages = fault.messages ∧
          final.data.entries = Datum.mapNumbersOfEntries reread fault.data.entries) ∧
      ∀ response reason, Wraps first octets fault response reason →
        depthLimit < response.depth + 2 →
          ∃ problem, Wraps second sent final (.text (String.ofList (fault.body true locale)))
            (.malformed problem) := by
  intro fault sent final
  let hop : Hop := ⟨true, locale, second, there⟩
  have debug : hop.debug = true := rfl
  have relayed : final = hop.relay fault := rfl
  rcases decode_sendable first here octets with sendable | ⟨response, reason, wraps, deep⟩
  · have identity := (relay_kept hop sendable).1.identity
    have whole := relay_whole debug sendable (decode_dated first here octets clock)
    have data := relay_data_iff debug sendable
    rw [← relayed] at identity whole data
    have shallow (response : Datum) (reason : Foreign)
        (wraps : Wraps first octets fault response reason) : response.depth + 2 ≤ depthLimit :=
      shallow_of_sendable sendable wraps
    refine ⟨Identity.mk.inj identity, ⟨?_, ?_⟩, ?_, ?_⟩
    · intro same
      exact ⟨shallow, data.mp same.2.2⟩
    · intro fixed
      exact ⟨whole.timestamp, whole.messages, data.mpr fixed.2⟩
    · intro _
      refine ⟨whole.timestamp, whole.messages, ?_⟩
      rw [whole.data, Function.iterate_one, entries_rereadData]
    · intro response reason wraps deep
      exact absurd (shallow response reason wraps) (Nat.not_le.mpr deep)
  · have deepened {response : Datum} {reason : Foreign}
        (wraps : Wraps first octets fault response reason)
        (deep : depthLimit < response.depth + 2) :
        ∃ problem, Wraps second sent final (.text (String.ofList (fault.body true locale)))
          (.malformed problem) :=
      relay_deep fault debug (depth_of_wraps wraps ▸ deep)
    obtain ⟨problem, arrived⟩ := deepened wraps deep
    refine ⟨⟨?_, ?_⟩, ⟨?_, ?_⟩, ?_, ?_⟩
    · rw [arrived.code, wraps.code]
    · rw [arrived.status, wraps.status]
    · rintro ⟨-, -, data⟩
      rw [relayed] at data
      exact absurd data (relay_deep_changes fault debug (depth_of_wraps wraps ▸ deep))
    · rintro ⟨shallow, -⟩
      exact absurd (shallow response reason wraps) (Nat.not_le.mpr deep)
    · intro shallow
      exact absurd (shallow response reason wraps) (Nat.not_le.mpr deep)
    · intro other why wraps deep
      exact deepened wraps deep

/-- A list in a list is wrapped, and arrives as it was received. -/
theorem passed_on_list :
    let fault := (decode quietReporter noonAmbient (Text.Utf8.encode "[[]]".toList)).1
    let final := (decode quietReporter noonAmbient (Text.Utf8.encode (fault.body true "en"))).1
    final.code = fault.code ∧ final.timestamp = fault.timestamp ∧
      final.messages = fault.messages ∧ final.data = fault.data := by
  have depth : (decode quietReporter noonAmbient
      (Text.Utf8.encode "[[]]".toList)).1.datum.depth ≤ depthLimit := by
    decide +kernel
  have numbers : Datum.numbersOfEntries (decode quietReporter noonAmbient
      (Text.Utf8.encode "[[]]".toList)).1.data.entries = [] := by
    decide +kernel
  -- nothing may be evaluated any more from here on
  generalize Text.Utf8.encode "[[]]".toList = octets at depth numbers ⊢
  obtain ⟨same, kept, -⟩ :=
    passed_on quietReporter quietReporter noonAmbient noonAmbient "en" octets (by decide)
  refine ⟨same.1, kept.mpr ⟨fun response reason wraps => ?_, fun x inside => ?_⟩⟩
  · exact (depth_of_wraps wraps).symm.le.trans depth
  · rw [numbers] at inside
    cases inside

def nestedLists : List Char := List.replicate 126 '[' ++ List.replicate 126 ']'

/-- Not every body is passed on: the text of lists that nest too deep arrives for the lists. -/
theorem nested_lists_lost :
    ¬ ∀ (first second : Reporter) (here there : Ambient) (locale : String) (octets : List UInt8),
      here.moment.now ≠ "" →
        let fault := (decode first here octets).1
        let final := (decode second there (Text.Utf8.encode (fault.body true locale))).1
        final.code = fault.code ∧ final.status = fault.status ∧
          final.timestamp = fault.timestamp ∧ final.messages = fault.messages ∧
            final.data = fault.data := by
  intro all
  have deep : depthLimit <
      (decode quietReporter noonAmbient (Text.Utf8.encode nestedLists)).1.datum.depth := by
    decide +kernel
  generalize Text.Utf8.encode nestedLists = octets at deep
  obtain ⟨-, -, -, -, same⟩ :=
    all quietReporter quietReporter noonAmbient noonAmbient "en" octets (by decide)
  exact data_of_deep _ quietReporter noonAmbient "en" deep same

end FaultMesh
