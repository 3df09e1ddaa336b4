import FaultMesh.Config
import FaultMesh.Config.Expansion
import FaultMesh.Toml.Document
import FaultMesh.Toml.Reader

/-!
# Configuration sources

A configuration is the text of a TOML document.  Its placeholders are expanded first, then
its sections are read, and last the settings are checked.
-/

set_option autoImplicit false

namespace FaultMesh

inductive ConfigError where
  | unreadable (path reason : String)
  | expansion (reason : ExpansionError)
  | notADocument
  | mismatch (reason : Schema.Mismatch)
  | invalid (flaw : Config.Flaw)
  deriving DecidableEq, Repr

def ConfigError.message : ConfigError → String
  | .unreadable path reason => s!"failed to read config file {path}: {reason}"
  | .expansion reason => s!"config variable expansion failed: {reason.message}"
  | .notADocument => "failed to parse config: the text is no document"
  | .mismatch reason => s!"failed to parse config: {reason.message}"
  | .invalid flaw => flaw.message

namespace Config

open FaultMesh.Toml (Value)
open FaultMesh.Schema (Mismatch)

def readAddress (value : Value) : Except Mismatch SocketAddress := do
  let text ← value.textAs "socket address"
  match SocketAddress.read? text.toList with
  | some address => return address
  | none => .error (.refused "invalid socket address syntax")

def readUrl (value : Value) : Except Mismatch Url := do
  let text ← value.textAs "a string representing an URL"
  (Url.parse text).mapError fun problem =>
    .refused (problem.message ++ ": " ++ Text.quoted text)

def readCount (value : Value) : Except Mismatch Nat := value.asUnsigned 64 "u64"

def serverReader : Toml.RecordReader ServerSettings where
  name := "ServerConfig"
  fields :=
    [⟨"listen_address", .requiredInList, fun draft value => do
        let address ← readAddress value
        return { draft with listenAddress := some address }⟩,
     ⟨"debug_mode", .optional, fun draft value => do
        let debugMode ← value.asBoolean
        return { draft with debugMode }⟩]

def sourceReader : Toml.RecordReader SourceSettings where
  name := "ErrorsConfig"
  fields :=
    [⟨"config_path", .required, fun draft value => do
        let path ← value.textAs "path string"
        return { draft with path }⟩,
     ⟨"default_locale", .optional, fun draft value => do
        let defaultLocale ← value.asText
        return { draft with defaultLocale }⟩]

def apiReader : Toml.RecordReader ApiSettings where
  name := "ApiConfig"
  fields :=
    [⟨"default_limit", .optional, fun draft value => do
        let defaultLimit ← readCount value
        return { draft with defaultLimit }⟩,
     ⟨"max_limit", .optional, fun draft value => do
        let maxLimit ← readCount value
        return { draft with maxLimit }⟩,
     ⟨"path_param_pattern", .optional, fun draft value => do
        let pattern ← value.asText
        return { draft with pathPattern := some pattern }⟩]

def clientReader : Toml.RecordReader ClientSettings where
  name := "ClientConfig"
  fields :=
    [⟨"timeout_seconds", .optional, fun draft value => do
        let timeoutSeconds ← readCount value
        return { draft with timeoutSeconds }⟩,
     ⟨"headers", .optional, fun draft value => do
        let headers ← value.asMap Value.asText
        return { draft with headers }⟩]

def telemetryReader : Toml.RecordReader TelemetrySettings where
  name := "TelemetryConfig"
  fields :=
    [⟨"log_filter", .optional, fun draft value => do
        let logFilter ← value.asText
        return { draft with logFilter }⟩,
     ⟨"json", .optional, fun draft value => do
        let json ← value.asBoolean
        return { draft with json }⟩]

def reader : Toml.RecordReader Config where
  name := "Config"
  fields :=
    [⟨"server", .optional, fun draft value => do
        let server ← serverReader.read .standard value
        return { draft with server }⟩,
     ⟨"errors", .required, fun draft value => do
        let errors ← sourceReader.read .blank value
        return { draft with errors }⟩,
     ⟨"api", .optional, fun draft value => do
        let api ← apiReader.read .standard value
        return { draft with api }⟩,
     ⟨"domains", .optional, fun draft value => do
        let domains ← value.asMap readUrl
        return { draft with domains }⟩,
     ⟨"client", .optional, fun draft value => do
        let client ← clientReader.read .standard value
        return { draft with client }⟩,
     ⟨"telemetry", .optional, fun draft value => do
        let telemetry ← telemetryReader.read .standard value
        return { draft with telemetry }⟩]

def validate (config : Config) : Except ConfigError Config :=
  match config.flaw? with
  | none => .ok config
  | some flaw => .error (.invalid flaw)

def ofEntries (entries : List (String × Value)) : Except ConfigError Config :=
  match reader.read .blank (.table entries) with
  | .ok config => .ok config
  | .error reason => .error (.mismatch reason)

def parse (environment : Environment) (source : String) : Except ConfigError Config :=
  match Expansion.expand environment source with
  | .error reason => .error (.expansion reason)
  | .ok expanded =>
    match Toml.parse expanded with
    | none => .error .notADocument
    | some entries => ofEntries entries >>= validate

def load (environment : Environment) (path : String) (content : Except String (List UInt8)) :
    Except ConfigError Config :=
  match content with
  | .error reason => .error (.unreadable path reason)
  | .ok octets =>
    match Text.Utf8.decode? octets with
    | none => .error (.unreadable path "stream did not contain valid UTF-8")
    | some source => parse environment source

end Config

end FaultMesh
