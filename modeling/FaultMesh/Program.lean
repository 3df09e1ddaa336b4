import FaultMesh.CommandLine
import FaultMesh.Config.Source
import FaultMesh.Log.Sink
import FaultMesh.Registry.Source
import FaultMesh.Service
import FaultMesh.Service.Catalog

/-!
# The program

The program serves the catalog of a registry.  It starts in steps, each of which can fail:
the command line, the configuration, the log, and the registry, without which nothing is
listened to.
-/

set_option autoImplicit false

namespace FaultMesh

structure Surroundings where
  environment : Environment
  contentOf : String → Except String (List UInt8)

structure Program where
  sink : Log.Sink
  service : Service
  address : SocketAddress

inductive Startup where
  | refused (reason : UsageError)
  | failed (log : List String) (reason : String)
  | ready (log : List String) (program : Program)

namespace Program

def logTarget : String := "emf"

def serverLogTarget : String := "emf_server"

def event (level : Level) (target message : String) (fields : List (String × Log.Value)) :
    Log.Event :=
  ⟨level, target, message, fields⟩

def loggingEvent (telemetry : TelemetrySettings) : Log.Event :=
  event .debug "emf_telemetry" "logging initialized"
    [("filter", .shown telemetry.logFilter), ("json", .flag telemetry.json)]

def registryFailedEvent (path : String) (reason : RegistryError) : Log.Event :=
  event .error logTarget "failed to load error templates"
    [("path", .shown path), ("error", .shown reason.message)]

def registryLoadedEvent (registry : Registry) (debugMode : Bool) : Log.Event :=
  event .info logTarget "error registry loaded"
    [("errors", .number registry.size), ("debug_mode", .flag debugMode)]

def listeningEvent (address : SocketAddress) : Log.Event :=
  event .info serverLogTarget "server listening" [("local_addr", .shown address.render)]

def stopEvents : List Log.Event :=
  [event .info logTarget "shutdown signal received" [],
   event .info serverLogTarget "graceful shutdown initiated" [],
   event .info logTarget "server stopped" []]

/-- The directives of the environment, unless there are none, or else the configured ones,
and what they are called. -/
def directives (environment : Environment) (telemetry : TelemetrySettings) : String × String :=
  match (environment.text? "RUST_LOG").filter (· ≠ "") with
  | some directives => ("RUST_LOG directives", directives)
  | none => ("telemetry.log_filter", telemetry.logFilter)

def sinkFor (environment : Environment) (telemetry : TelemetrySettings) :
    Except String Log.Sink :=
  let (name, directives) := directives environment telemetry
  match Log.Filter.read directives with
  | .ok filter => .ok ⟨filter, telemetry.json⟩
  | .error reason => .error s!"invalid {name} '{directives}': {reason.message}"

def registryFailure (path : String) (reason : RegistryError) : String :=
  s!"cannot start without error templates from {path}: {reason.message}"

def serveRegistry (config : Config) (sink : Log.Sink) (log : List String) (registry : Registry) :
    Startup :=
  let log := log ++ sink.lines [registryLoadedEvent registry config.server.debugMode]
  match Service.ofConfig config registry [Catalog.route] with
  | .ok service => .ready log ⟨sink, service, Service.listenAddress config⟩
  | .error reason => .failed log s!"invalid path parameter pattern: {reason.message}"

def startWith (surroundings : Surroundings) (config : Config) : Startup :=
  match sinkFor surroundings.environment config.telemetry with
  | .error reason => .failed [] reason
  | .ok sink =>
    let path := config.errors.path
    let loading := Registry.loadFile path (surroundings.contentOf path)
    let log := sink.lines (loggingEvent config.telemetry :: loading.events)
    match loading.result with
    | .ok registry => serveRegistry config sink log registry
    | .error reason =>
      .failed (log ++ sink.lines [registryFailedEvent path reason]) (registryFailure path reason)

def start (surroundings : Surroundings) (arguments : List String) : Startup :=
  match Arguments.read surroundings.environment arguments with
  | .error reason => .refused reason
  | .ok arguments =>
    match Config.load surroundings.environment arguments.config
        (surroundings.contentOf arguments.config) with
    | .error reason => .failed [] reason.message
    | .ok config => startWith surroundings (arguments.apply config)

def respond (program : Program) (moment : Moment) (request : Http.Request) :
    Http.Response × List String :=
  let verbosity := program.sink.filter.verbosity Reporter.logTarget
  let (response, events) := program.service.respond ⟨moment, verbosity⟩ request
  (response, program.sink.lines events)

end Program

/-- What is left of a program: its exit code, what it put out and what it complained
about. -/
structure Ending where
  code : Nat
  output : List String
  complaint : Option String
  deriving DecidableEq, Repr

namespace Ending

def refused (environment : Environment) (reason : UsageError) : Ending :=
  match reason with
  | .help => ⟨0, Arguments.helpLines environment, none⟩
  | reason => ⟨2, [], some reason.message⟩

def failed (log : List String) (reason : String) : Ending :=
  ⟨1, log, some ("Error: " ++ reason)⟩

def listened (log : List String) (sink : Log.Sink) (address : Except String SocketAddress) :
    Ending :=
  match address with
  | .error reason => failed log reason
  | .ok address =>
    ⟨0, log ++ sink.lines (Program.listeningEvent address :: Program.stopEvents), none⟩

end Ending

end FaultMesh
