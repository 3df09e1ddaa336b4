import FaultMesh.Config
import FaultMesh.Http.Message
import FaultMesh.Inbound
import FaultMesh.Service.Context
import FaultMesh.Text.Base64

/-!
# Clients

A client calls the services of other components by the names of the components.  In debug
mode the call asks for debug mode too.  Whatever goes wrong comes back as a fault: what the
called service answered, if it answered with a fault, and else a builtin fault that says at
which step the call failed.
-/

set_option autoImplicit false

namespace FaultMesh

structure Client where
  domains : OrderedMap Url
  fields : Http.Fields

/-- What is called, and what is sent there; an input may come with the reason why it cannot
be written down. -/
structure Call where
  method : String
  component : String
  path : String
  input : Option (Except String Datum)

structure Outgoing where
  method : String
  url : Url
  fields : Http.Fields
  body : Option String

/-- What became of a request: no answer at all, a whole answer, or one that broke off. -/
inductive Reply where
  | none
  | whole (status : Nat) (body : List UInt8)
  | broken (status : Nat) (reason : String)
  deriving DecidableEq, Repr

inductive CallFailure where
  | unknownComponent (component : String)
  | invalidUrl (text : String) (problem : Url.Problem)
  | unwritable (reason : String)
  | unsupportedScheme (url : Url)
  | unsent (url : Url)
  | brokenFault (reason : String)
  | brokenValue (reason : String)
  | unreadable (body : List UInt8) (problem : Json.Problem)
  deriving DecidableEq, Repr

namespace CallFailure

def code : CallFailure → Builtin
  | .unknownComponent _ => .requesterCreateRequestFailure
  | .invalidUrl _ _ => .requesterCreateRequestFailure
  | .unwritable _ => .requesterEncodingFailure
  | .unsupportedScheme _ => .requesterSendRequestFailure
  | .unsent _ => .requesterSendRequestFailure
  | .brokenFault _ => .requesterErrorResponseFailure
  | .brokenValue _ => .requesterDecodingFailure
  | .unreadable _ _ => .requesterDecodingFailure

def data : CallFailure → Data
  | .brokenFault _ => .ofList [(Inbound.responseKey, .null)]
  | _ => .empty

def cause : CallFailure → Cause
  | .unknownComponent component => .plain s!"component '{component}' was not configured"
  | .invalidUrl text problem =>
    .wrap s!"invalid request URL '{text}': {problem.message}" (.plain problem.message)
  | .unwritable reason => .plain reason
  | .unsupportedScheme url => .plain s!"builder error for url ({url.render})"
  | .unsent url => .plain s!"error sending request for url ({url.render})"
  | .brokenFault reason => .plain reason
  | .brokenValue reason => .plain reason
  | .unreadable body problem => .plain (problem.message body)

def report (failure : CallFailure) (reporter : Reporter) (ambient : Ambient) :
    Fault × List Log.Event :=
  reporter.builtin ambient failure.code failure.data [failure.cause]

end CallFailure

namespace Client

def ofDomains (domains : OrderedMap Url) : Client := ⟨domains, []⟩

def withFields (client : Client) (fields : List (String × String)) :
    Except Http.FieldError Client := do
  let fields ← client.fields.appendAll fields
  return { client with fields }

def ofConfig (config : Config) : Except Http.FieldError Client :=
  (ofDomains config.domains).withFields config.client.headers.entries

def domain? (client : Client) (component : String) : Option Url := client.domains.get? component

/-- A path below a URL, with one slash between them. -/
def joinPath (url path : List Char) : List Char :=
  (url.reverse.dropWhile (· = '/')).reverse ++ '/' :: path.dropWhile (· = '/')

def forwardDebug (debug : Bool) (url : Url) : Url :=
  if debug then url.appendPair RequestContext.debugParameter "true" else url

def urlFor (client : Client) (debug : Bool) (component path : String) :
    Except CallFailure Url :=
  match client.domain? component with
  | none => .error (.unknownComponent component)
  | some domain =>
    let text := joinPath domain.render.toList path.toList
    match Url.parseChars text with
    | .ok url => .ok (forwardDebug debug url)
    | .error problem => .error (.invalidUrl (String.ofList text) problem)

def logTarget : String := "emf_client"

def writeInput : Option (Except String Datum) → Except CallFailure (Option String)
  | none => .ok none
  | some (.ok value) => .ok (some (Json.render value))
  | some (.error reason) => .error (.unwritable reason)

/-- The field that a user name and a password are sent in. -/
def credentialsField (username : String) (password : Option String) : String × String :=
  let text := username ++ ":" ++ password.getD ""
  ("authorization", "Basic " ++ String.ofList (Text.Base64.encode (Text.Utf8.encodeString text)))

/-- The fields for a URL: those of the client go before the credentials of the URL. -/
def fieldsFor (client : Client) (url : Url) : Http.Fields :=
  match url.credentials? with
  | some (username, password) =>
    if (client.fields.first? "authorization").isSome then client.fields
    else credentialsField username password :: client.fields
  | none => client.fields

/-- The request of a call.  Credentials do not stay in its URL. -/
def outgoing (client : Client) (debug : Bool) (call : Call) : Except CallFailure Outgoing := do
  let url ← client.urlFor debug call.component call.path
  let body ← writeInput call.input
  let typeField := if body.isSome then [("content-type", "application/json")] else []
  return ⟨call.method, url.withoutCredentials, client.fieldsFor url ++ typeField, body⟩

def sendingEvent (call : Call) (request : Outgoing) : Log.Event where
  level := .debug
  target := logTarget
  message := "sending downstream request"
  fields :=
    [("method", .shown request.method), ("url", .shown request.url.render),
     ("component", .quoted call.component)]

def failedEvent (call : Call) (status : Nat) (fault : Fault) : Log.Event where
  level := .warn
  target := logTarget
  message := "downstream request failed"
  fields :=
    [("component", .quoted call.component), ("status", .number status),
     ("error_code", .quoted fault.code)]

def isSendable (url : Url) : Bool := url.scheme = "http" || url.scheme = "https"

/-! ## Receiving -/

/-- The document of a body, where an empty body stands for an absent value. -/
def bodyOctets (body : List UInt8) : List UInt8 :=
  if body = [] then Text.Utf8.encodeString "null" else body

def readBody {α : Type} (read : Json.Document → Except Json.Problem α) (body : List UInt8) :
    Except CallFailure α :=
  let octets := bodyOctets body
  (read (Json.parse octets)).mapError (.unreadable octets)

def failWith {α : Type} (reporter : Reporter) (ambient : Ambient) (failure : CallFailure) :
    Except Fault α × List Log.Event :=
  let (fault, events) := failure.report reporter ambient
  (.error fault, events)

def failedCall {α : Type} (ambient : Ambient) (call : Call) (status : Nat)
    (failed : Fault × List Log.Event) : Except Fault α × List Log.Event :=
  let (fault, events) := failed
  (.error fault, events ++ Log.admitted ambient.verbosity [failedEvent call status fault])

def receive {α : Type} (reporter : Reporter) (ambient : Ambient)
    (read : Json.Document → Except Json.Problem α) (call : Call) (url : Url) :
    Reply → Except Fault α × List Log.Event
  | .none => failWith reporter ambient (.unsent url)
  | .whole status body =>
    if 400 ≤ status then
      failedCall ambient call status (Inbound.decode reporter ambient body)
    else
      match readBody read body with
      | .ok value => (.ok value, [])
      | .error failure => failWith reporter ambient failure
  | .broken status reason =>
    if 400 ≤ status then
      failedCall ambient call status
        ((CallFailure.brokenFault reason).report reporter ambient)
    else failWith reporter ambient (.brokenValue reason)

def call {α : Type} (client : Client) (reporter : Reporter) (ambient : Ambient)
    (peer : Outgoing → Reply) (read : Json.Document → Except Json.Problem α) (call : Call) :
    Except Fault α × List Log.Event :=
  match client.outgoing reporter.context.debug call with
  | .error failure => failWith reporter ambient failure
  | .ok request =>
    let sent := Log.admitted ambient.verbosity [sendingEvent call request]
    let (result, events) :=
      if isSendable request.url then
        receive reporter ambient read call request.url (peer request)
      else failWith reporter ambient (.unsupportedScheme request.url)
    (result, sent ++ events)

end Client

end FaultMesh
