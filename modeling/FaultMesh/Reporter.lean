import FaultMesh.Fault.Wire
import FaultMesh.Registry

/-!
# Reporters

A reporter makes the faults of one request and logs each of them once.  In debug mode it
adds what is known of the request to the data, and logs the stack: the logging asks for
its text, so that it is known from then on.  An event that nobody looks at asks for
nothing.
-/

set_option autoImplicit false

namespace FaultMesh

structure RequestContext where
  locale : String
  debug : Bool
  method : String
  path : String
  query : String
  deriving DecidableEq, Repr

namespace RequestContext

def detached : RequestContext := ⟨defaultLocale, false, "", "", ""⟩

instance : Inhabited RequestContext := ⟨detached⟩

def debugEntries (context : RequestContext) : List (String × Datum) :=
  [("DebugMode", .boolean true), ("Method", .text context.method),
   ("Path", .text context.path), ("QueryString", .text context.query)]

def addDebugEntries (context : RequestContext) (data : Data) : Data :=
  if context.debug then
    context.debugEntries.foldl (fun data (key, value) => data.insertNew key value) data
  else data

end RequestContext

/-- What a reporter's work takes from the world: the moment, and how much of the log is
looked at. -/
structure Ambient where
  moment : Moment
  verbosity : Verbosity
  deriving DecidableEq, Repr

structure Reporter where
  registry : Registry
  context : RequestContext

namespace Reporter

def logTarget : String := "emf_errors::handler"

def faultEvent (context : RequestContext) (fault : Fault) : Log.Event where
  level := if 500 ≤ fault.status then .error else .warn
  target := logTarget
  message := fault.message context.locale
  fields :=
    [("error_code", .quoted fault.code),
     ("status_code", .number fault.status.toNat),
     ("timestamp", .quoted fault.timestamp),
     ("data", .shown (Json.render (.map fault.data.entries)))] ++
    match fault.cause with
    | some cause => [("cause", .quoted cause.text)]
    | none => []

def stackEvent (fault : Fault) : Log.Event where
  level := .debug
  target := logTarget
  message := "error stack trace"
  fields := [("error_code", .quoted fault.code), ("stack_trace", .quoted fault.stack.text)]

def faultEvents (context : RequestContext) (fault : Fault) : List Log.Event :=
  faultEvent context fault :: if context.debug then [stackEvent fault] else []

def unresolvedEvent (reason : RegistryError) : Log.Event where
  level := .error
  target := logTarget
  message := "failed to construct error"
  fields := [("error", .shown reason.message)]

/-- Whether logging a fault asks for the text of its stack. -/
def asksForStack (context : RequestContext) (verbosity : Verbosity) : Bool :=
  context.debug && verbosity.admits .debug

/-- Makes and logs the fault of a definition; the first cause is kept. -/
def instantiate (reporter : Reporter) (ambient : Ambient) (definition : Definition)
    (data : Data) (causes : List Cause) : Fault × List Log.Event :=
  let context := reporter.context
  let fault := Fault.render ambient.moment definition (context.addDebugEntries data) causes.head?
  (if asksForStack context ambient.verbosity then fault.forceStack else fault,
    Log.admitted ambient.verbosity (faultEvents context fault))

/-- The fault of a builtin code, which cannot fail. -/
def builtin (reporter : Reporter) (ambient : Ambient) (code : Builtin) (data : Data)
    (causes : List Cause) : Fault × List Log.Event :=
  reporter.instantiate ambient code.definition data causes

def new (reporter : Reporter) (ambient : Ambient) (code : String) (data : Data)
    (causes : List Cause) : Except RegistryError (Fault × List Log.Event) := do
  let definition ← reporter.registry.resolve code
  return reporter.instantiate ambient definition data causes

/-- The fault of a code; one that is not registered is itself a fault. -/
def fail (reporter : Reporter) (ambient : Ambient) (code : String) (data : Data)
    (causes : List Cause) : Fault × List Log.Event :=
  match reporter.registry.resolve code with
  | .ok definition => reporter.instantiate ambient definition data causes
  | .error reason =>
    let (fault, events) := reporter.builtin ambient .unknownErrorCode
      (.ofList [("Code", .text code)]) causes
    (fault, Log.admitted ambient.verbosity [unresolvedEvent reason] ++ events)

end Reporter

end FaultMesh
