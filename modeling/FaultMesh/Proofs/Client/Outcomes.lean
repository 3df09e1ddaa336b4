import FaultMesh.Proofs.Client.Addressing
import FaultMesh.Proofs.Inbound

/-!
# What calls come to

A call ends with a value or with a fault.  A fault is either what the called service said, or
made here, at one of the steps of the call; one that was made here carries its cause, and
says it in its data too.
-/

set_option autoImplicit false

namespace FaultMesh

/-- A fault with a code and a cause, whose data say the cause. -/
structure Explained (fault : Fault) : Prop where
  code : fault.code ≠ ""
  cause : ∃ cause, fault.cause = some cause ∧
    fault.data.get? Fault.errorKey = some (.text cause.text)

theorem Builtin.code_ne_empty (code : Builtin) : code.code ≠ "" := by
  cases code <;> decide

theorem Reporter.explained_builtin (reporter : Reporter) (ambient : Ambient) (code : Builtin)
    {data : Data} (absent : data.get? Fault.errorKey = none) (cause : Cause) :
    Explained (reporter.builtin ambient code data [cause]).1 where
  code := by
    rw [Reporter.builtin, Reporter.instantiate_code]
    exact code.code_ne_empty
  cause := by
    have other : Fault.errorKey ∉ RequestContext.debugKeys := by decide
    have absent : (reporter.context.addDebugEntries data).get? Fault.errorKey = none :=
      (RequestContext.get?_addDebugEntries _ _ other).trans absent
    rw [Reporter.builtin, Reporter.instantiate_cause, Reporter.instantiate_data]
    exact ⟨cause, rfl, Fault.get?_bindCause_error _ cause absent⟩

theorem Inbound.get?_responseKey (response : Datum) :
    (OrderedMap.ofList [(Inbound.responseKey, response)]).get? Fault.errorKey = none := by
  have other : Inbound.responseKey ≠ Fault.errorKey := by decide
  rw [OrderedMap.get?, OrderedMap.entries_ofList]
  exact (Entries.lookup_cons_ite _ _ []).trans (if_neg other)

theorem CallFailure.explained_report (failure : CallFailure) (reporter : Reporter)
    (ambient : Ambient) : Explained (failure.report reporter ambient).1 := by
  refine reporter.explained_builtin ambient failure.code ?_ failure.cause
  unfold CallFailure.data
  split
  · exact Inbound.get?_responseKey .null
  · rfl

theorem CallFailure.code_report (failure : CallFailure) (reporter : Reporter)
    (ambient : Ambient) :
    (failure.report reporter ambient).1.code = failure.code.code :=
  Reporter.instantiate_code reporter ambient _ _ _

theorem CallFailure.cause_report (failure : CallFailure) (reporter : Reporter)
    (ambient : Ambient) :
    (failure.report reporter ambient).1.cause = some failure.cause :=
  Reporter.instantiate_cause reporter ambient _ _ _

namespace Inbound

theorem code_of_recognize? {moment : Moment} {document : Json.Document} {fault : Fault}
    (known : recognize? moment document = some fault) : fault.code ≠ "" := by
  have brief (known : recognize?.brief? moment document = some fault) : fault.code ≠ "" := by
    rw [recognize?.brief?] at known
    split at known
    · obtain ⟨coded, made⟩ := Option.ite_none_right_eq_some.mp known
      obtain rfl := Option.some.inj made
      exact coded
    · cases known
  unfold recognize? at known
  split at known
  · split at known
    next coded =>
      obtain rfl := Option.some.inj known
      exact coded
    · exact brief known
  · exact brief known

/-- A body that is not recognized is wrapped in a fault that says why. -/
theorem explained_decode {reporter : Reporter} {ambient : Ambient} {body : List UInt8}
    (unknown : recognize? ambient.moment (Json.parse body) = none) :
    Explained (decode reporter ambient body).1 := by
  rw [decode]
  simp only [unknown]
  exact reporter.explained_builtin ambient _ (get?_responseKey _) _

end Inbound

namespace Client

section
variable {α : Type} {client : Client} {reporter : Reporter} {ambient : Ambient}
  {peer : Outgoing → Reply} {read : Json.Document → Except Json.Problem α} {call : Call}

/-! ## Exits -/

/-- The fault was sent by the called service. -/
def Rebuilt (client : Client) (reporter : Reporter) (ambient : Ambient)
    (peer : Outgoing → Reply) (call : Call) (fault : Fault) : Prop :=
  ∃ sent status body, client.outgoing reporter.context.debug call = .ok sent ∧
    isSendable sent.url = true ∧ peer sent = .whole status body ∧ 400 ≤ status ∧
      Inbound.recognize? ambient.moment (Json.parse body) = some fault

theorem call_unmade {failure : CallFailure}
    (failed : client.outgoing reporter.context.debug call = .error failure) :
    client.call reporter ambient peer read call = failWith reporter ambient failure := by
  rw [Client.call, failed]

theorem call_sent {sent : Outgoing}
    (made : client.outgoing reporter.context.debug call = .ok sent)
    (sendable : isSendable sent.url = true) :
    (client.call reporter ambient peer read call).1 =
      (receive reporter ambient read call sent.url (peer sent)).1 := by
  rw [Client.call, made]
  simp only [if_pos sendable]

theorem call_unsendable {sent : Outgoing}
    (made : client.outgoing reporter.context.debug call = .ok sent)
    (unsendable : ¬ isSendable sent.url = true) :
    (client.call reporter ambient peer read call).1 =
      .error ((CallFailure.unsupportedScheme sent.url).report reporter ambient).1 := by
  rw [Client.call, made]
  simp only [if_neg unsendable]
  rfl

theorem receive_failing {url : Url} {status : Nat} (failing : 400 ≤ status)
    (body : List UInt8) :
    (receive reporter ambient read call url (.whole status body)).1 =
      .error (Inbound.decode reporter ambient body).1 := by
  rw [receive, if_pos failing]
  rfl

theorem receive_fine {url : Url} {status : Nat} (fine : status < 400) (body : List UInt8) :
    (receive reporter ambient read call url (.whole status body)).1 =
      match read (Json.parse (bodyOctets body)) with
      | .ok value => .ok value
      | .error problem =>
        .error ((CallFailure.unreadable (bodyOctets body) problem).report reporter ambient).1 := by
  rw [receive, if_neg (Nat.not_le.mpr fine), readBody]
  cases read (Json.parse (bodyOctets body)) <;> rfl

/-- Any other status gives the value of the body, where an empty body stands for null. -/
theorem receive_reads {url : Url} {status : Nat} (fine : status < 400) (body : List UInt8) :
    let document := Json.parse (bodyOctets body)
    let result := (receive reporter ambient read call url (.whole status body)).1
    (∀ value, result = .ok value ↔ read document = .ok value) ∧
      ((∀ value, read document ≠ .ok value) →
        ∃ fault, result = .error fault ∧ fault.code = "http.500.RequesterDecodingFailure") := by
  intro document result
  cases found : read document with
  | ok value =>
    have received : result = .ok value := (receive_fine fine body).trans (by rw [found])
    rw [received]
    exact ⟨fun other => by simp, fun none => absurd rfl (none value)⟩
  | error problem =>
    have received : result = .error
        ((CallFailure.unreadable (bodyOctets body) problem).report reporter ambient).1 :=
      (receive_fine fine body).trans (by rw [found])
    rw [received]
    refine ⟨fun value => by simp, fun _ => ⟨_, rfl, ?_⟩⟩
    exact CallFailure.code_report _ reporter ambient

theorem receive_error {url : Url} {reply : Reply} {fault : Fault}
    (failed : (receive reporter ambient read call url reply).1 = .error fault) :
    (∃ failure : CallFailure, fault = (failure.report reporter ambient).1) ∨
      ∃ status body, reply = .whole status body ∧ 400 ≤ status ∧
        fault = (Inbound.decode reporter ambient body).1 := by
  cases reply with
  | none => exact .inl ⟨.unsent url, (Except.error.inj failed).symm⟩
  | whole status body =>
    by_cases failing : 400 ≤ status
    · rw [receive_failing failing] at failed
      exact .inr ⟨status, body, rfl, failing, (Except.error.inj failed).symm⟩
    · rw [receive_fine (Nat.lt_of_not_le failing)] at failed
      split at failed
      · cases failed
      next problem _ => exact .inl ⟨.unreadable _ problem, (Except.error.inj failed).symm⟩
  | broken status reason =>
    rw [receive] at failed
    split at failed
    · exact .inl ⟨.brokenFault reason, (Except.error.inj failed).symm⟩
    · exact .inl ⟨.brokenValue reason, (Except.error.inj failed).symm⟩

/-- A call fails at one of its own steps, or with the body of a failing answer. -/
theorem call_error {fault : Fault}
    (failed : (client.call reporter ambient peer read call).1 = .error fault) :
    (∃ failure : CallFailure, fault = (failure.report reporter ambient).1) ∨
      ∃ sent status body, client.outgoing reporter.context.debug call = .ok sent ∧
        isSendable sent.url = true ∧ peer sent = .whole status body ∧ 400 ≤ status ∧
          fault = (Inbound.decode reporter ambient body).1 := by
  cases made : client.outgoing reporter.context.debug call with
  | error failure =>
    rw [call_unmade made] at failed
    exact .inl ⟨failure, (Except.error.inj failed).symm⟩
  | ok sent =>
    by_cases sendable : isSendable sent.url = true
    · rw [call_sent made sendable] at failed
      rcases receive_error failed with own | ⟨status, body, reply, failing, decoded⟩
      · exact .inl own
      · exact .inr ⟨sent, status, body, rfl, sendable, reply, failing, decoded⟩
    · rw [call_unsendable made sendable] at failed
      exact .inl ⟨_, (Except.error.inj failed).symm⟩

/-- Every fault of a call has a code, and says its cause unless it was sent by the called
service. -/
theorem explained_call {fault : Fault}
    (failed : (client.call reporter ambient peer read call).1 = .error fault) :
    Explained fault ∨
      (fault.code ≠ "" ∧ Rebuilt client reporter ambient peer call fault) := by
  rcases call_error failed with
    ⟨failure, rfl⟩ | ⟨sent, status, body, made, sendable, reply, failing, rfl⟩
  · exact .inl (failure.explained_report reporter ambient)
  · cases known : Inbound.recognize? ambient.moment (Json.parse body) with
    | none => exact .inl (Inbound.explained_decode known)
    | some said =>
      rw [Inbound.decode_recognized reporter ambient known]
      exact .inr ⟨Inbound.code_of_recognize? known, sent, status, body, made, sendable, reply,
        failing, known⟩

/-! ## Requests that can be made -/

theorem outgoing_unknown (unknown : client.domain? call.component = none) (debug : Bool) :
    client.outgoing debug call = .error (.unknownComponent call.component) := by
  rw [outgoing, urlFor, unknown]
  rfl

theorem scheme_withoutCredentials (url : Url) : url.withoutCredentials.scheme = url.scheme := by
  rw [Url.withoutCredentials]
  split <;> rfl

theorem outgoing_written {debug : Bool} {url : Url}
    (made : client.urlFor debug call.component call.path = .ok url)
    (writable : ∀ reason, call.input ≠ some (.error reason)) :
    ∃ sent, client.outgoing debug call = .ok sent ∧ sent.method = call.method ∧
      sent.url = url.withoutCredentials := by
  rw [outgoing, made]
  rcases input : call.input with _ | reason | value
  · exact ⟨_, rfl, rfl, rfl⟩
  · exact absurd input (writable reason)
  · exact ⟨_, rfl, rfl, rfl⟩

end

theorem outgoing_web {config : Config} {client : Client} {call : Call} {domain : Url}
    (accepted : config.Accepted) (same : client.domains = config.domains)
    (known : config.domains.get? call.component = some domain) (web : isSendable domain = true)
    (writable : ∀ reason, call.input ≠ some (.error reason)) (debug : Bool) :
    ∃ sent, client.outgoing debug call = .ok sent ∧ sent.method = call.method ∧
      isSendable sent.url = true := by
  have address := urlFor_eq accepted same known web debug call.path
  obtain ⟨sent, made, method, url⟩ := outgoing_written address writable
  have scheme : (forwardDebug debug (below domain call.path)).scheme = domain.scheme :=
    (sameAuthority_forwardDebug (sameAuthority_withTail domain _) debug).scheme
  refine ⟨sent, made, method, ?_⟩
  rw [isSendable, url, scheme_withoutCredentials, scheme]
  exact web

/-- What a call comes to.  The component is not configured, and nobody is contacted; or the
whole answer decides: a failing one by its body alone, any other by whether its body can be
read.  Every fault has a code, and says its cause unless the called service sent it. -/
theorem call_outcome {α : Type} {config : Config} {client : Client}
    (accepted : config.Accepted) (same : client.domains = config.domains)
    (reporter : Reporter) (ambient : Ambient) (peer : Outgoing → Reply)
    (read : Json.Document → Except Json.Problem α) (call : Call)
    (writable : ∀ reason, call.input ≠ some (.error reason)) :
    let result := (client.call reporter ambient peer read call).1
    let request := client.outgoing reporter.context.debug call
    (config.domains.get? call.component = none →
      ∃ fault, result = .error fault ∧ fault.code = "http.500.RequesterCreateRequestFailure" ∧
        fault.cause = some (.plain s!"component '{call.component}' was not configured") ∧
        ∀ other, client.call reporter ambient other read call =
          client.call reporter ambient peer read call) ∧
    (∀ domain, config.domains.get? call.component = some domain → isSendable domain = true →
      ∃ sent, request = .ok sent ∧ sent.method = call.method ∧ isSendable sent.url = true) ∧
    (∀ sent status body, request = .ok sent → isSendable sent.url = true →
      peer sent = .whole status body →
        (400 ≤ status → result = .error (Inbound.decode reporter ambient body).1) ∧
        (status < 400 →
          let document := Json.parse (if body = [] then Text.Utf8.encodeString "null" else body)
          (∀ value, result = .ok value ↔ read document = .ok value) ∧
            ((∀ value, read document ≠ .ok value) →
              ∃ fault, result = .error fault ∧
                fault.code = "http.500.RequesterDecodingFailure"))) ∧
    ∀ fault, result = .error fault →
      fault.code ≠ "" ∧
        (Rebuilt client reporter ambient peer call fault ∨
          ∃ cause, fault.cause = some cause ∧
            fault.data.get? Fault.errorKey = some (.text cause.text)) := by
  intro result request
  refine ⟨?_, ?_, ?_, ?_⟩
  · intro unknown
    have unknown : client.domain? call.component = none := by rw [domain?, same, unknown]
    have failed := outgoing_unknown unknown reporter.context.debug
    refine ⟨_, congrArg Prod.fst (call_unmade failed), ?_, ?_, ?_⟩
    · exact CallFailure.code_report _ reporter ambient
    · exact CallFailure.cause_report _ reporter ambient
    · intro other
      rw [call_unmade failed, call_unmade failed]
  · intro domain known web
    exact outgoing_web accepted same known web writable reporter.context.debug
  · intro sent status body made sendable reply
    have received : result =
        (receive reporter ambient read call sent.url (.whole status body)).1 :=
      reply ▸ call_sent made sendable
    rw [received]
    exact ⟨fun failing => receive_failing failing body, fun fine => receive_reads fine body⟩
  · intro fault failed
    rcases explained_call failed with explained | ⟨code, rebuilt⟩
    · exact ⟨explained.code, .inr explained.cause⟩
    · exact ⟨code, .inl rebuilt⟩

/-- An answer without a body is an absent value, and a failing one is the fault that it says. -/
theorem call_outcome_answers :
    ∃ config, Config.parse ⟨[]⟩ componentsSource = .ok config ∧
      let answered := fun reply => ((ofDomains config.domains).call quietReporter noonAmbient
        (fun _ => reply) Json.Document.datum ⟨"GET", "users", "list", none⟩).1
      answered (.whole 204 []) = .ok .null ∧
        ∃ fault, answered (.whole 404 Inbound.codedBody) = .error fault ∧ fault.code = "x" := by
  obtain ⟨config, parsed, known, -⟩ := parse_componentsSource
  have outcome (reply : Reply) := call_outcome (Config.accepted_of_parse parsed)
    (domains_ofDomains _) quietReporter noonAmbient (fun _ => reply) Json.Document.datum
    ⟨"GET", "users", "list", none⟩ (by simp)
  refine ⟨config, parsed, ?_, ?_⟩
  · obtain ⟨-, sends, answers, -⟩ := outcome (.whole 204 [])
    obtain ⟨sent, made, -, sendable⟩ := sends usersDomain known (by decide)
    have fine := (answers sent 204 [] made sendable rfl).2 (by decide)
    exact (fine.1 .null).mpr rfl
  · obtain ⟨-, sends, answers, -⟩ := outcome (.whole 404 Inbound.codedBody)
    obtain ⟨sent, made, -, sendable⟩ := sends usersDomain known (by decide)
    have failing := (answers sent 404 _ made sendable rfl).1 (by decide)
    exact ⟨_, failing, rfl⟩

end Client

end FaultMesh
