import FaultMesh.Definition
import FaultMesh.Json.Reader

/-!
# Definitions as JSON

A definition is a record of its status and, where they are given, its description, its
message templates and its data documentation.  The code is not part of the record: it is
the name under which the record stands.
-/

set_option autoImplicit false

namespace FaultMesh.Definition

open FaultMesh.Json (Node Problem RecordReader)

def readTemplate (node : Node) : Except Problem Template := do
  let source ← node.text
  match Template.parse source with
  | .ok template => return template
  | .error reason => .error (Json.mismatchAt (.refused reason.message) 0)

def reader : RecordReader Definition where
  name := "Definition"
  fields :=
    [("status_code", fun draft node => do
        let status ← node.status
        return { draft with status }),
     ("description", fun draft node => do
        let description ← node.text
        return { draft with description }),
     ("message", fun draft node => do
        let messages ← node.mapOf (Json.depthLimit - 1) readTemplate
        return { draft with messages }),
     ("data", fun draft node => do
        let data ← node.mapOf (Json.depthLimit - 1) Node.text
        return { draft with data })]
  closed := true

def readNode (node : Node) : Except Problem Definition := do
  let (draft, seen) ← reader.read Json.depthLimit blank node
  if "status_code" ∈ seen then return draft
  else .error (Json.mismatchAt (.missingField "status_code") 0)

def readJson (octets : List UInt8) : Except Problem Definition :=
  (Json.parse octets).read readNode

def datum (definition : Definition) : Datum :=
  .map
    [("status_code", .ofNat definition.status.toNat),
     ("description", .text definition.description),
     ("message", .map (definition.messages.mapValues fun t => .text t.source).entries),
     ("data", .map (definition.data.mapValues .text).entries)]

end FaultMesh.Definition
