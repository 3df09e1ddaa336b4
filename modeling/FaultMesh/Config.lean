import FaultMesh.Network.Address
import FaultMesh.OrderedMap
import FaultMesh.Regex.Pattern
import FaultMesh.Url

/-!
# Configuration

The settings of a service, in sections.  Settings are valid when the bounds of paging make
sense, the pattern of path parameters is a regular expression, and every component has an
absolute URL with a host.
-/

set_option autoImplicit false

namespace FaultMesh

structure ServerSettings where
  listenAddress : Option SocketAddress
  debugMode : Bool
  deriving DecidableEq, Repr

def ServerSettings.standard : ServerSettings := ⟨none, false⟩

structure SourceSettings where
  path : String
  defaultLocale : String
  deriving DecidableEq, Repr

def SourceSettings.blank : SourceSettings := ⟨"", "en"⟩

structure ApiSettings where
  defaultLimit : Nat
  maxLimit : Nat
  pathPattern : Option String
  deriving DecidableEq, Repr

def ApiSettings.standard : ApiSettings := ⟨20, 50, none⟩

structure ClientSettings where
  timeoutSeconds : Nat
  headers : OrderedMap String

def ClientSettings.standard : ClientSettings := ⟨30, .empty⟩

structure TelemetrySettings where
  logFilter : String
  json : Bool
  deriving DecidableEq, Repr

def TelemetrySettings.standard : TelemetrySettings := ⟨"info", false⟩

structure Config where
  server : ServerSettings
  errors : SourceSettings
  api : ApiSettings
  domains : OrderedMap Url
  client : ClientSettings
  telemetry : TelemetrySettings

namespace Config

def blank : Config :=
  ⟨.standard, .blank, .standard, .empty, .standard, .standard⟩

instance : Inhabited Config := ⟨blank⟩

inductive Flaw where
  | emptyPath
  | emptyLocale
  | zeroMaxLimit
  | defaultLimitOutOfRange (maxLimit defaultLimit : Nat)
  | invalidPattern (reason : Regex.Pattern.Flaw)
  | domainWithoutHost (component : String) (url : Url)
  deriving DecidableEq, Repr

def Flaw.message : Flaw → String
  | .emptyPath => "errors.config_path must not be empty"
  | .emptyLocale => "errors.default_locale must not be empty"
  | .zeroMaxLimit => "api.max_limit must be greater than 0"
  | .defaultLimitOutOfRange maxLimit defaultLimit =>
    s!"api.default_limit must be between 1 and api.max_limit ({maxLimit}), got {defaultLimit}"
  | .invalidPattern reason => s!"invalid api.path_param_pattern: {reason.message}"
  | .domainWithoutHost component url =>
    s!"domain for component '{component}' must be an absolute URL with a host: {url.render}"

def sourceFlaw? (errors : SourceSettings) : Option Flaw :=
  if errors.path = "" then some .emptyPath
  else if errors.defaultLocale = "" then some .emptyLocale
  else none

def patternFlaw? (api : ApiSettings) : Option Flaw := do
  let pattern ← api.pathPattern
  match Regex.ofPattern pattern with
  | .ok _ => none
  | .error reason => some (.invalidPattern reason)

def apiFlaw? (api : ApiSettings) : Option Flaw :=
  if api.maxLimit = 0 then some .zeroMaxLimit
  else if api.defaultLimit = 0 ∨ api.maxLimit < api.defaultLimit then
    some (.defaultLimitOutOfRange api.maxLimit api.defaultLimit)
  else patternFlaw? api

/-- The first component whose URL has no host. -/
def domainFlaw? (domains : OrderedMap Url) : Option Flaw :=
  (domains.entries.find? fun entry => !entry.2.isBaseWithHost).map fun entry =>
    .domainWithoutHost entry.1 entry.2

def flaw? (config : Config) : Option Flaw :=
  sourceFlaw? config.errors <|> apiFlaw? config.api <|> domainFlaw? config.domains

def IsValid (config : Config) : Prop := config.flaw? = none

instance (config : Config) : Decidable config.IsValid :=
  inferInstanceAs (Decidable (config.flaw? = none))

end Config

end FaultMesh
