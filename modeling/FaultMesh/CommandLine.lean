import FaultMesh.Config
import FaultMesh.Environment

/-!
# The command line

Settings are given as options or in the environment; an option goes before a variable, and
a variable before the standard value.  An option whose value stands in the next argument is
only looked at when the next option begins, so that an argument that is no option is
complained about first.
-/

set_option autoImplicit false

namespace FaultMesh

structure Arguments where
  config : String
  listen : Option SocketAddress
  debugMode : Bool
  deriving DecidableEq, Repr

inductive Setting where
  | config
  | listen
  | debugMode
  deriving DecidableEq, Repr

def Setting.label : Setting → String
  | .config => "--config <CONFIG>"
  | .listen => "--listen <LISTEN>"
  | .debugMode => "--debug-mode"

inductive UsageError where
  | help
  | unexpectedArgument (argument : String)
  | missingValue (setting : Setting)
  | unwantedValue (option value : String)
  | repeated (setting : Setting)
  | invalidAddress (value : String)
  | invalidFlag (value : String)
  | notText
  deriving DecidableEq, Repr

def UsageError.message : UsageError → String
  | .help => "Serves the merged error taxonomy of an emf service"
  | .unexpectedArgument argument => s!"error: unexpected argument '{argument}' found"
  | .missingValue setting =>
    s!"error: a value is required for '{setting.label}' but none was supplied"
  | .unwantedValue option value =>
    s!"error: unexpected value '{value}' for '{option}' found; no more were expected"
  | .repeated setting =>
    s!"error: the argument '{setting.label}' cannot be used multiple times"
  | .invalidAddress value =>
    s!"error: invalid value '{value}' for '{Setting.listen.label}': invalid socket address syntax"
  | .invalidFlag value => s!"error: invalid value '{value}' for '{Setting.debugMode.label}'"
  | .notText => "error: invalid UTF-8 was detected in one or more arguments"

namespace Arguments

/-! ## Options -/

structure Reading where
  config : Option String
  listen : Option SocketAddress
  debugMode : Option Bool
  pending : Option (Setting × Option String)
  deriving DecidableEq, Repr

namespace Reading

def start : Reading := ⟨none, none, none, none⟩

def setConfig (reading : Reading) (value : String) : Except UsageError Reading :=
  if reading.config.isSome then .error (.repeated .config)
  else if value = "" then .error (.missingValue .config)
  else .ok { reading with config := some value }

def setListen (reading : Reading) (value : String) : Except UsageError Reading :=
  if reading.listen.isSome then .error (.repeated .listen)
  else
    match SocketAddress.read? value.toList with
    | some address => .ok { reading with listen := some address }
    | none => .error (.invalidAddress value)

def setDebugMode (reading : Reading) (value : String) : Except UsageError Reading :=
  if reading.debugMode.isSome then .error (.repeated .debugMode)
  else
    match value with
    | "true" => .ok { reading with debugMode := some true }
    | "false" => .ok { reading with debugMode := some false }
    | value => .error (.invalidFlag value)

def set (reading : Reading) (setting : Setting) (value : String) : Except UsageError Reading :=
  match setting with
  | .config => reading.setConfig value
  | .listen => reading.setListen value
  | .debugMode => reading.setDebugMode value

/-- Looks at the option that was left for later, if there is one. -/
def settle (reading : Reading) : Except UsageError Reading :=
  match reading.pending with
  | none => .ok reading
  | some (setting, none) => .error (.missingValue setting)
  | some (setting, some value) => { reading with pending := none }.set setting value

def attach (reading : Reading) (setting : Setting) (value : String) :
    Except UsageError Reading := do
  let reading ← reading.settle
  reading.set setting value

def await (reading : Reading) (setting : Setting) : Except UsageError Reading := do
  let reading ← reading.settle
  return { reading with pending := some (setting, none) }

def askForHelp (reading : Reading) : Except UsageError Reading := do
  let _ ← reading.settle
  .error .help

def takeLong (reading : Reading) (name : String) (value : Option String) :
    Except UsageError Reading :=
  match name, value with
  | "config", none => reading.await .config
  | "config", some value => reading.attach .config value
  | "listen", none => reading.await .listen
  | "listen", some value => reading.attach .listen value
  | "debug-mode", none => reading.attach .debugMode "true"
  | "debug-mode", some value => .error (.unwantedValue "--debug-mode" value)
  | "help", none => reading.askForHelp
  | "help", some value => .error (.unwantedValue "--help" value)
  | name, _ => .error (.unexpectedArgument ("--" ++ name))

def takeShort (reading : Reading) (letter : Char) (rest : List Char) :
    Except UsageError Reading :=
  match letter, rest with
  | 'c', [] => reading.await .config
  | 'c', '=' :: value => reading.attach .config (String.ofList value)
  | 'c', value => reading.attach .config (String.ofList value)
  | 'h', _ => reading.askForHelp
  | letter, _ => .error (.unexpectedArgument (String.ofList ['-', letter]))

def takeValue (reading : Reading) (argument : String) : Except UsageError Reading :=
  match reading.pending with
  | some (setting, none) => .ok { reading with pending := some (setting, some argument) }
  | _ => .error (.unexpectedArgument argument)

def take (reading : Reading) (argument : String) : Except UsageError Reading :=
  match argument.toList with
  | '-' :: '-' :: text =>
    match Text.splitOnce? '=' text with
    | some (name, value) => reading.takeLong (String.ofList name) (some (String.ofList value))
    | none => reading.takeLong (String.ofList text) none
  | '-' :: letter :: rest => reading.takeShort letter rest
  | _ => reading.takeValue argument

/-- Reads arguments in order; behind two hyphens there may be none. -/
def takeAll (reading : Reading) : List String → Except UsageError Reading
  | [] => reading.settle
  | argument :: rest =>
    if argument = "--" then
      match rest with
      | [] => reading.settle
      | unexpected :: _ => .error (.unexpectedArgument unexpected)
    else do
      let reading ← reading.take argument
      reading.takeAll rest

def configFrom (reading : Reading) (environment : Environment) : Except UsageError Reading :=
  match reading.config, environment.octets? "EMF_CONFIG" with
  | none, some octets => reading.setConfig (Text.Utf8.decodeLossy octets)
  | _, _ => .ok reading

def listenFrom (reading : Reading) (environment : Environment) : Except UsageError Reading :=
  match reading.listen, environment.octets? "EMF_LISTEN" with
  | none, some octets =>
    match Text.Utf8.decode? octets with
    | some value => reading.setListen value
    | none => .error .notText
  | _, _ => .ok reading

def debugModeFrom (reading : Reading) (environment : Environment) : Except UsageError Reading :=
  match reading.debugMode, environment.octets? "EMF_DEBUG_MODE" with
  | none, some octets => reading.setDebugMode (Text.Utf8.decodeLossy octets)
  | _, _ => .ok reading

end Reading

def standardConfig : String := "emf.toml"

def read (environment : Environment) (arguments : List String) : Except UsageError Arguments := do
  let reading ← Reading.start.takeAll arguments
  let reading ← reading.configFrom environment
  let reading ← reading.listenFrom environment
  let reading ← reading.debugModeFrom environment
  return ⟨reading.config.getD standardConfig, reading.listen, reading.debugMode.getD false⟩

def helpLines (environment : Environment) : List String :=
  let holding (name : String) : String :=
    let value := (environment.octets? name).getD []
    s!"[env: {name}={Text.Utf8.decodeLossy value}]"
  [UsageError.help.message,
   "",
   "Usage: emf [OPTIONS]",
   "",
   "Options:",
   "  -c, --config <CONFIG>  Path to configuration file " ++ holding "EMF_CONFIG" ++
     s!" [default: {standardConfig}]",
   "      --listen <LISTEN>  Override the listen address " ++ holding "EMF_LISTEN",
   "      --debug-mode       Answer every request with full error details " ++
     holding "EMF_DEBUG_MODE",
   "  -h, --help             Print help"]

/-- Settings of a file with those of the command line on top. -/
def apply (arguments : Arguments) (config : Config) : Config :=
  { config with
    server :=
      { listenAddress := arguments.listen <|> config.server.listenAddress
        debugMode := config.server.debugMode || arguments.debugMode } }

end Arguments

end FaultMesh
