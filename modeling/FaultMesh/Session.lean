import FaultMesh.Inbound

/-!
# Sessions

A run of operations on one registry: faults are made one after another and kept under
names.  Two names may stand for the same fault, and what asks for the stack of one has
then asked for the stack of the other.
-/

set_option autoImplicit false

namespace FaultMesh

inductive SessionError where
  | noSlot (name : String)
  | notBuiltin (code : String)
  | registry (reason : RegistryError)
  | json (problem : Json.Problem)
  deriving DecidableEq, Repr

/-- Faults in the order of their making, and the names that stand for them. -/
structure Session where
  reporter : Reporter
  faults : List Fault
  slots : OrderedMap Nat

/-- A cause as it is asked for: a text, a text with a cause of its own, a minimal fault, or
a fault of the session. -/
inductive CauseRequest where
  | plain (text : String)
  | wrap (text : String) (source : CauseRequest)
  | minimal (code : String) (status : UInt16) (message : String)
  | slot (name : String)
  deriving Repr

inductive Making where
  | new (code : String) (data : Data) (causes : List CauseRequest)
  | fail (code : String) (data : Data) (causes : List CauseRequest)
  | builtin (code : String) (data : Data) (causes : List CauseRequest)
  | render (code : String) (data : Data) (causes : List CauseRequest)
  | minimal (code : String) (status : UInt16) (message : String)
  | decode (octets : List UInt8)
  | report (octets : List UInt8)
  | brief (octets : List UInt8)
  | resend (slot : String) (debug : Bool) (locale : String)

namespace Session

def start (registry : Registry) (context : RequestContext) : Session :=
  ⟨⟨registry, context⟩, [], .empty⟩

def fault? (session : Session) (slot : String) : Option Fault := do
  let index ← session.slots.get? slot
  session.faults[index]?

def find (session : Session) (slot : String) : Except SessionError Fault :=
  match session.fault? slot with
  | some fault => .ok fault
  | none => .error (.noSlot slot)

def cause (session : Session) : CauseRequest → Except SessionError Cause
  | .plain text => .ok (.plain text)
  | .wrap text source => (session.cause source).map (Cause.wrap text)
  | .minimal code status message =>
    .ok (Fault.minimal ⟨"", ""⟩ code status message).asCause
  | .slot name => (session.find name).map Fault.asCause

/-- Only the first cause is looked at. -/
def causes (session : Session) (requests : List CauseRequest) :
    Except SessionError (List Cause) :=
  match requests with
  | [] => .ok []
  | request :: _ => (session.cause request).map ([·])

def make (session : Session) (ambient : Ambient) :
    Making → Except SessionError (Fault × List Log.Event)
  | .new code data requests => do
    let causes ← session.causes requests
    (session.reporter.new ambient code data causes).mapError .registry
  | .fail code data requests => do
    let causes ← session.causes requests
    return session.reporter.fail ambient code data causes
  | .builtin code data requests => do
    let causes ← session.causes requests
    match Builtin.ofCode? code with
    | some builtin => return session.reporter.builtin ambient builtin data causes
    | none => .error (.notBuiltin code)
  | .render code data requests => do
    let causes ← session.causes requests
    let definition ← (session.reporter.registry.resolve code).mapError .registry
    return (Fault.render ambient.moment definition data causes.head?, [])
  | .minimal code status message => .ok (Fault.minimal ambient.moment code status message, [])
  | .decode octets => .ok (Inbound.decode session.reporter ambient octets)
  | .report octets => do
    let report ← (Report.read (Json.parse octets)).mapError .json
    return (report.toFault ambient.moment, [])
  | .brief octets => do
    let brief ← (Brief.read (Json.parse octets)).mapError .json
    return (brief.toFault ambient.moment, [])
  | .resend slot debug locale => do
    let fault ← session.find slot
    return Inbound.decode session.reporter ambient
      (Text.Utf8.encode (fault.body debug locale))

def keep (session : Session) (slot : String) (fault : Fault) : Session :=
  { session with
    faults := session.faults ++ [fault]
    slots := session.slots.insert slot session.faults.length }

def share (session : Session) (slot of : String) : Except SessionError Session :=
  match session.slots.get? of with
  | some index => .ok { session with slots := session.slots.insert slot index }
  | none => .error (.noSlot of)

def forceStack (session : Session) (slot : String) : Except SessionError (Session × String) := do
  let fault ← session.find slot
  match session.slots.get? slot with
  | some index =>
    return ({ session with faults := session.faults.modify index Fault.forceStack },
      fault.stack.text)
  | none => .error (.noSlot slot)

def insert (session : Session) (ambient : Ambient) (definition : Definition) :
    Except SessionError (Session × List Log.Event) := do
  let registry ← (session.reporter.registry.insert definition).mapError .registry
  return ({ session with reporter := { session.reporter with registry } },
    Log.admitted ambient.verbosity (Registry.insertEvents definition.code))

def enter (session : Session) (context : RequestContext) : Session :=
  { session with reporter := { session.reporter with context } }

end Session

end FaultMesh
