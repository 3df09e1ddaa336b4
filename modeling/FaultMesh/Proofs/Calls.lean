import FaultMesh.Client
import FaultMesh.Proofs.Forwarding
import FaultMesh.Proofs.Registry.Merged
import FaultMesh.Proofs.Reporter.Making

/-!
# Faults across a call

A service answers with the fault of a code that it knows, and the client that called it
makes a fault of the answer again.  A client takes an answer for a fault from status 400 on.
A definition may give its code any status, though, and those from 100 to 399 are answered
as they are: such a fault arrives as if the call had succeeded.
-/

set_option autoImplicit false

namespace FaultMesh

open FaultMesh.Json
open FaultMesh.Inbound

/-- Statuses that HTTP does not have are answered as 500, which is a failure. -/
theorem Fault.httpStatus_failing_iff (fault : Fault) :
    400 ≤ fault.httpStatus ↔ ¬ (100 ≤ fault.status.toNat ∧ fault.status.toNat < 400) := by
  unfold Fault.httpStatus
  simp only
  split
  · omega
  · omega

theorem keyed_insert {data : Data} {key : String} {value : Datum} (inner : value.Keyed)
    (keyed : Datum.KeyedEntries data.entries) :
    Datum.KeyedEntries (data.insert key value).entries := by
  rw [OrderedMap.entries_insert]
  exact Datum.keyedEntries_insert key inner keyed

theorem keyed_insertNew {data : Data} {key : String} {value : Datum} (inner : value.Keyed)
    (keyed : Datum.KeyedEntries data.entries) :
    Datum.KeyedEntries (data.insertNew key value).entries := by
  unfold OrderedMap.insertNew
  split
  · exact keyed
  · exact keyed_insert inner keyed

theorem keyed_addDebugEntries (context : RequestContext) {data : Data}
    (keyed : Datum.KeyedEntries data.entries) :
    Datum.KeyedEntries (context.addDebugEntries data).entries := by
  rw [RequestContext.addDebugEntries]
  split
  · simp only [RequestContext.debugEntries, List.foldl_cons, List.foldl_nil]
    exact keyed_insertNew trivial (keyed_insertNew trivial (keyed_insertNew trivial
      (keyed_insertNew trivial keyed)))
  · exact keyed

theorem keyed_bindCause (cause : Option Cause) {data : Data}
    (keyed : Datum.KeyedEntries data.entries) :
    Datum.KeyedEntries (Fault.bindCause data cause).entries := by
  unfold Fault.bindCause
  split
  · exact keyed
  · split
    · exact keyed_insert trivial keyed
    · exact keyed

namespace Client

/-- A request goes out for a call, and a response comes back with its whole body. -/
def Answered (client : Client) (debug : Bool) (call : Call) (peer : Outgoing → Reply)
    (response : Http.Response) : Prop :=
  ∃ request, client.outgoing debug call = .ok request ∧ isSendable request.url = true ∧
    peer request = .whole response.status (Text.Utf8.encodeString response.body)

section Answer
variable {α : Type} {client : Client} {caller : Reporter} {call : Call}
  {peer : Outgoing → Reply} {response : Http.Response} (ambient : Ambient)
  (read : Document → Except Problem α)

theorem call_failing (answered : client.Answered caller.context.debug call peer response)
    (failing : 400 ≤ response.status) :
    (client.call caller ambient peer read call).1 =
      .error (decode caller ambient (Text.Utf8.encodeString response.body)).1 := by
  obtain ⟨request, out, sendable, reply⟩ := answered
  rw [Client.call, out]
  simp only [sendable, reply, receive, if_true, if_pos failing]
  rfl

theorem call_succeeding (answered : client.Answered caller.context.debug call peer response)
    (mild : response.status < 400) (filled : Text.Utf8.encodeString response.body ≠ [])
    {value : α} (readable : read (parse (Text.Utf8.encodeString response.body)) = .ok value) :
    (client.call caller ambient peer read call).1 = .ok value := by
  obtain ⟨request, out, sendable, reply⟩ := answered
  rw [Client.call, out]
  simp only [sendable, reply, receive, if_true, if_neg (Nat.not_le.mpr mild), readBody,
    bodyOctets, if_neg filled, readable]
  rfl

end Answer

end Client

/-! ## Faults that answer a call -/

theorem status_respond (reporter : Reporter) (fault : Fault) :
    (reporter.respond fault).status = fault.httpStatus := rfl

theorem octets_respond (reporter : Reporter) (fault : Fault) :
    Text.Utf8.encodeString (reporter.respond fault).body =
      Text.Utf8.encode (fault.body reporter.context.debug reporter.context.locale) := by
  simp [Reporter.respond, Http.Response.ofFault, Http.Response.json, Json.render, Fault.body,
    Text.Utf8.encodeString]

theorem octets_respond_ne_nil (reporter : Reporter) (fault : Fault) :
    Text.Utf8.encodeString (reporter.respond fault).body ≠ [] := by
  have opens : ∃ rest, fault.body reporter.context.debug reporter.context.locale =
      '\x7b' :: rest := by
    rw [Fault.body, Fault.project]
    split
    · exact ⟨_, rfl⟩
    · exact ⟨_, rfl⟩
  obtain ⟨rest, opens⟩ := opens
  rw [octets_respond, opens]
  exact List.cons_ne_nil _ _

/-- A fault keeps code and status over a hop, unless it is sent in full and nests too deep. -/
theorem identity_relay (hop : Hop) {fault : Fault} (coded : fault.code ≠ "")
    (keyed : Datum.KeyedEntries fault.data.entries)
    (shallow : hop.debug = true → fault.datum.depth ≤ depthLimit) :
    (hop.relay fault).identity = fault.identity := by
  cases debug : hop.debug with
  | true => exact (relay_kept hop ⟨coded, keyed, shallow debug⟩).1.identity
  | false =>
    rw [relay_production fault debug coded]
    rfl

section Respond
variable {α : Type} {client : Client} {peer : Outgoing → Reply} {call : Call}
  (reporter : Reporter) (fault : Fault) (caller : Reporter) (there : Ambient)
  (read : Document → Except Problem α)

theorem call_respond
    (answered : client.Answered caller.context.debug call peer (reporter.respond fault))
    (failing : 400 ≤ (reporter.respond fault).status) :
    (client.call caller there peer read call).1 =
      .error (Hop.relay ⟨reporter.context.debug, reporter.context.locale, caller, there⟩ fault) := by
  rw [Client.call_failing there read answered failing, octets_respond]
  rfl

/-- A fault that is sent in full and nests too deep does not arrive under its own code. -/
theorem call_respond_deep
    (answered : client.Answered caller.context.debug call peer (reporter.respond fault))
    (failing : 400 ≤ (reporter.respond fault).status) (debug : reporter.context.debug = true)
    (deep : depthLimit < fault.datum.depth) :
    ∃ arrived, (client.call caller there peer read call).1 = .error arrived ∧
      arrived.code = Builtin.requesterErrorResponseFailure.code := by
  let hop : Hop := ⟨reporter.context.debug, reporter.context.locale, caller, there⟩
  have full : hop.debug = true := debug
  obtain ⟨problem, wraps⟩ := relay_deep fault full deep
  exact ⟨hop.relay fault, call_respond reporter fault caller there read answered failing,
    wraps.code⟩

end Respond

namespace Registry

theorem written_of_loaded {source : String} {registry : Registry}
    (loaded : (loadSource source).result = .ok registry) : ∃ codes, Written codes registry := by
  cases parsed : Toml.parse source with
  | none =>
    rw [loadSource, parsed] at loaded
    cases loaded
  | some entries => exact ⟨_, (Origin.source parsed loaded).written⟩

theorem Written.code_ne_empty {codes : List String} {registry : Registry} {code : String}
    (written : Written codes registry) (registered : code ∈ registry.codes) : code ≠ "" := by
  rintro rfl
  rcases registry.mem_codes.mp registered with builtin | configured
  · exact absurd builtin (by decide)
  · exact absurd (written.merged.valid "" configured) (by decide)

end Registry

/-- A code of a source is answered as a failure, unless its definition gives it a status from
100 to 399.  A failure arrives with the same code and status, as long as what is sent does
not nest deeper than what is read; any other answer that comes with its body is taken for a
value. -/
theorem registered_answered {source : String} {registry : Registry} {code : String}
    (loaded : (Registry.loadSource source).result = .ok registry)
    (registered : code ∈ registry.codes) (context : RequestContext) (here : Ambient)
    (data : Data) (keyed : Datum.KeyedEntries data.entries) (causes : List Cause) :
    let reporter : Reporter := ⟨registry, context⟩
    let fault := (reporter.fail here code data causes).1
    let response := reporter.respond fault
    ∃ definition, registry.getDefinition code = some definition ∧
      (400 ≤ response.status ↔
        ¬ (100 ≤ definition.status.toNat ∧ definition.status.toNat < 400)) ∧
      ∀ (α : Type) (client : Client) (caller : Reporter) (there : Ambient)
        (peer : Outgoing → Reply) (read : Document → Except Problem α) (call : Call),
        client.Answered caller.context.debug call peer response →
          (400 ≤ response.status → (context.debug = true → fault.datum.depth ≤ depthLimit) →
            ∃ arrived, (client.call caller there peer read call).1 = .error arrived ∧
              arrived.code = code ∧ arrived.status = definition.status) ∧
          (response.status < 400 → ∀ value,
            read (parse (Text.Utf8.encodeString response.body)) = .ok value →
              (client.call caller there peer read call).1 = .ok value) := by
  intro reporter fault response
  obtain ⟨codes, written⟩ := Registry.written_of_loaded loaded
  obtain ⟨definition, found⟩ :=
    Option.isSome_iff_exists.mp ((registry.isSome_getDefinition_iff code).mpr registered)
  have made : fault = (reporter.instantiate here definition data causes).1 :=
    congrArg Prod.fst (reporter.fail_of_found here data causes found)
  have named : fault.code = code := by
    rw [made, Reporter.instantiate_code]
    exact written.merged.own code definition found
  have status : fault.status = definition.status := by
    rw [made, Reporter.instantiate_status]
  have coded : fault.code ≠ "" := named ▸ written.code_ne_empty registered
  have inner : Datum.KeyedEntries fault.data.entries := by
    rw [made, Reporter.instantiate_data]
    exact keyed_bindCause _ (keyed_addDebugEntries context keyed)
  refine ⟨definition, found, ?_, ?_⟩
  · rw [status_respond, ← status]
    exact fault.httpStatus_failing_iff
  intro α client caller there peer read call answered
  constructor
  · intro failing shallow
    let hop : Hop := ⟨context.debug, context.locale, caller, there⟩
    obtain ⟨same, kept⟩ := Identity.mk.inj (identity_relay hop coded inner shallow)
    exact ⟨hop.relay fault, call_respond reporter fault caller there read answered failing,
      same.trans named, kept.trans status⟩
  · intro mild value readable
    exact Client.call_succeeding there read answered mild (octets_respond_ne_nil reporter fault)
      readable

def usersUrl (path : List String) : Url :=
  ⟨"http", "", none, some (.domain "users"), none, .segments path, none, none⟩

def usersClient : Client := .ofDomains (.ofList [("users", usersUrl [])])

def usersCall : Call := ⟨"GET", "users", "/a", none⟩

theorem urlFor_usersCall :
    usersClient.urlFor false "users" "/a" = .ok (usersUrl ["a"]) := by
  have parsed : (usersClient.urlFor false "users" "/a").toOption = some (usersUrl ["a"]) := by
    decide +kernel
  exact toOption_eq_some.mp parsed

/-- A peer that answers whatever it is asked with one response. -/
def answering (response : Http.Response) : Outgoing → Reply :=
  fun _ => .whole response.status (Text.Utf8.encodeString response.body)

theorem answered_usersCall (response : Http.Response) :
    usersClient.Answered false usersCall (answering response) response := by
  refine ⟨⟨"GET", usersUrl ["a"], [], none⟩, ?_, ?_, rfl⟩
  · rw [Client.outgoing, usersCall, urlFor_usersCall]
    rfl
  · simp [Client.isSendable, usersUrl]

def missingDefinition : Definition :=
  { Definition.blank with code := "users.404.Missing", status := 404 }

theorem loaded_missing :
    ∃ registry, (Registry.loadSource Registry.quotedSource).result = .ok registry ∧
      registry.getDefinition "users.404.Missing" = some missingDefinition :=
  ⟨_, Registry.loaded_quotedSource, by decide +kernel⟩

section Missing
variable {registry : Registry}

theorem registered_of_found {code : String} {definition : Definition}
    (found : registry.getDefinition code = some definition) : code ∈ registry.codes := by
  rw [← Registry.isSome_getDefinition_iff, found]
  rfl

theorem failing_missing (context : RequestContext) (data : Data)
    (found : registry.getDefinition "users.404.Missing" = some missingDefinition) :
    let reporter : Reporter := ⟨registry, context⟩
    400 ≤ (reporter.respond
      (reporter.fail noonAmbient "users.404.Missing" data []).1).status := by
  intro reporter
  rw [status_respond, Fault.httpStatus_failing_iff,
    Reporter.fail_of_found reporter noonAmbient data [] found, Reporter.instantiate_status]
  decide

end Missing

theorem registered_answered_missing :
    ∃ registry, (Registry.loadSource Registry.quotedSource).result = .ok registry ∧
      let reporter : Reporter := ⟨registry, .detached⟩
      let response := reporter.respond (reporter.fail noonAmbient "users.404.Missing" .empty []).1
      400 ≤ response.status ∧
        ∃ arrived, (usersClient.call quietReporter noonAmbient (answering response)
            Document.datum usersCall).1 = .error arrived ∧ arrived.code = "users.404.Missing" := by
  obtain ⟨registry, loaded, found⟩ := loaded_missing
  have failing := failing_missing .detached .empty found
  obtain ⟨definition, -, -, calls⟩ :=
    registered_answered loaded (registered_of_found found) .detached noonAmbient .empty trivial []
  obtain ⟨fails, -⟩ := calls Datum usersClient quietReporter noonAmbient _ Document.datum
    usersCall (answered_usersCall _)
  obtain ⟨arrived, result, code, -⟩ := fails failing (fun debug => by cases debug)
  exact ⟨registry, loaded, failing, arrived, result, code⟩

def fineSource : String := "[users.200.Fine]\nstatus_code = 200\n"

def nestedList : Nat → Datum
  | 0 => .list []
  | depth + 1 => .list [nestedList depth]

/-- A list that nests nearly as deep as is read. -/
def deepData : Data := .ofList [("Deep", nestedList 125)]

theorem keyed_nestedList (depth : Nat) : (nestedList depth).Keyed := by
  induction depth with
  | zero => trivial
  | succ depth ih => exact ⟨ih, trivial⟩

def debugContext : RequestContext := { RequestContext.detached with debug := true }

theorem deep_missing {registry : Registry}
    (found : registry.getDefinition "users.404.Missing" = some missingDefinition) :
    let reporter : Reporter := ⟨registry, debugContext⟩
    depthLimit <
      (reporter.fail noonAmbient "users.404.Missing" deepData []).1.datum.depth := by
  intro reporter
  have data : depthLimit <
      Datum.depthOfEntries (debugContext.addDebugEntries deepData).entries + 2 := by
    decide +kernel
  rw [depth_datum, Reporter.fail_of_found reporter noonAmbient deepData [] found,
    Reporter.instantiate_data]
  exact data

/-- Not every registered code is answered as a failure, and not every failure arrives under
its code: data that nest too deep come as the text of what was sent. -/
theorem fine_answered_as_value :
    (¬ ∀ (source : String) (registry : Registry) (code : String) (context : RequestContext)
        (here : Ambient) (data : Data) (causes : List Cause),
      (Registry.loadSource source).result = .ok registry → code ∈ registry.codes →
        Datum.KeyedEntries data.entries →
          let reporter : Reporter := ⟨registry, context⟩
          400 ≤ (reporter.respond (reporter.fail here code data causes).1).status) ∧
      ¬ ∀ (source : String) (registry : Registry) (code : String) (context : RequestContext)
        (here : Ambient) (data : Data) (causes : List Cause),
      (Registry.loadSource source).result = .ok registry → code ∈ registry.codes →
        Datum.KeyedEntries data.entries →
          let reporter : Reporter := ⟨registry, context⟩
          let response := reporter.respond (reporter.fail here code data causes).1
          400 ≤ response.status →
            ∀ (client : Client) (caller : Reporter) (there : Ambient) (peer : Outgoing → Reply)
              (call : Call), client.Answered caller.context.debug call peer response →
                ∃ arrived, (client.call caller there peer Document.datum call).1 =
                  .error arrived ∧ arrived.code = code := by
  constructor
  · intro all
    have loaded : (Registry.loadSource fineSource).result =
        .ok (Registry.loadSource fineSource).registry :=
      Registry.Loading.result_of_free (by decide +kernel)
    have failing := all fineSource _ "users.200.Fine" .detached noonAmbient .empty [] loaded
      (by decide +kernel) trivial
    revert failing
    decide +kernel
  · intro all
    obtain ⟨registry, loaded, found⟩ := loaded_missing
    have failing := failing_missing debugContext deepData found
    have answered := answered_usersCall
      (Reporter.respond ⟨registry, debugContext⟩
        (Reporter.fail ⟨registry, debugContext⟩ noonAmbient "users.404.Missing" deepData []).1)
    obtain ⟨arrived, result, code⟩ := all Registry.quotedSource registry "users.404.Missing"
      debugContext noonAmbient deepData [] loaded (registered_of_found found)
      ⟨keyed_nestedList 125, trivial⟩ failing usersClient quietReporter noonAmbient _ usersCall
      answered
    obtain ⟨wrapped, other, wraps⟩ := call_respond_deep _ _ quietReporter noonAmbient
      Document.datum answered failing rfl (deep_missing found)
    obtain rfl := Except.error.inj (result.symm.trans other)
    rw [code] at wraps
    exact absurd wraps (by decide)

end FaultMesh
