import FaultMesh.Registry
import FaultMesh.Text.Utf8
import FaultMesh.Toml.Document
import FaultMesh.Toml.Reader

/-!
# Registry sources

A registry is loaded from a TOML document.  Every table with a key `status_code` is a
definition, and its code is the path of keys that leads to it; every other table only
holds definitions further down.  A source is refused for the first thing in its order that
is neither.  A date in a definition stands for its text.
-/

set_option autoImplicit false

namespace FaultMesh.Registry

open FaultMesh.Toml (Value)
open FaultMesh.Schema (Mismatch)

def readTemplate (value : Value) : Except Mismatch Template := do
  let source ← value.asText
  (Template.parse source).mapError fun reason => .refused reason.message

def definitionReader : Toml.RecordReader Definition where
  name := "Definition"
  fields :=
    [⟨"status_code", .required, fun draft value => do
        let status ← value.asUnsigned 16 "u16"
        return { draft with status := UInt16.ofNat status }⟩,
     ⟨"description", .optional, fun draft value => do
        let description ← value.asText
        return { draft with description }⟩,
     ⟨"message", .optional, fun draft value => do
        let messages ← value.asMap readTemplate
        return { draft with messages }⟩,
     ⟨"data", .optional, fun draft value => do
        let data ← value.asMap Value.asText
        return { draft with data }⟩]

def readDefinition (code : String) (entries : List (String × Value)) :
    Except RegistryError Definition :=
  match definitionReader.read .blank (.table (Value.plainEntries entries)) with
  | .ok draft => .ok { draft with code }
  | .error reason => .error (.invalidDefinition code reason.message)

/-- The code of a key below a path of keys. -/
def joinCode (above key : String) : String :=
  if above = "" then key else above ++ "." ++ key

def isDefinition (entries : List (String × Value)) : Bool :=
  (List.lookup "status_code" entries).isSome

def notATable : String := "expected a table with a status_code"

structure Loading where
  registry : Registry
  events : List Log.Event
  failure : Option RegistryError

namespace Loading

def start : Loading := ⟨.builtin, [], none⟩

def stop (loading : Loading) (reason : RegistryError) : Loading :=
  { loading with failure := some reason }

def add (loading : Loading) (definition : Definition) : Loading :=
  match loading.registry.insert definition with
  | .ok registry =>
    { loading with registry, events := loading.events ++ insertEvents definition.code }
  | .error reason => loading.stop reason

def define (loading : Loading) (code : String) (entries : List (String × Value)) : Loading :=
  match readDefinition code entries with
  | .ok definition => loading.add definition
  | .error reason => loading.stop reason

mutual

/-- Takes in the value at a path of keys: a definition, or a table that leads to some. -/
def collect (loading : Loading) (path : String) : Value → Loading
  | .table entries =>
    if isDefinition entries then loading.define path entries
    else loading.collectBelow path entries
  | _ => loading.stop (.invalidDefinition path notATable)

/-- Takes in the entries of a table in order, up to the first failure. -/
def collectBelow (loading : Loading) (above : String) : List (String × Value) → Loading
  | [] => loading
  | (key, value) :: entries =>
    let loading := loading.collect (joinCode above key) value
    if loading.failure.isSome then loading else loading.collectBelow above entries

end

def result (loading : Loading) : Except RegistryError Registry :=
  match loading.failure with
  | none => .ok loading.registry
  | some reason => .error reason

end Loading

def loadSource (source : String) : Loading :=
  match (Toml.parse source).filter Value.entriesInRange with
  | none => Loading.start.stop .unparsable
  | some entries => Loading.start.collectBelow "" entries

def loadedEvent (path : String) (registry : Registry) : Log.Event where
  level := .info
  target := logTarget
  message := "error templates loaded"
  fields := [("path", .shown path), ("configured", .number registry.configured.size)]

def loadFile (path : String) (content : Except String (List UInt8)) : Loading :=
  match content with
  | .error reason => Loading.start.stop (.unreadable path reason)
  | .ok octets =>
    match Text.Utf8.decode? octets with
    | none => Loading.start.stop (.unreadable path "stream did not contain valid UTF-8")
    | some source =>
      let loading := loadSource source
      if loading.failure.isSome then loading
      else { loading with events := loading.events ++ [loadedEvent path loading.registry] }

end FaultMesh.Registry
