import FaultMesh.Fault.Wire
import FaultMesh.Json.Reader

/-!
# Reading faults from the wire

Both shapes are records whose fields all may be missing or null.  So a foreign document
is read as a shape that lacks its code, and is refused for that.
-/

set_option autoImplicit false

namespace FaultMesh

open FaultMesh.Json (Node Document Problem RecordReader depthLimit)

structure Report where
  code : String
  timestamp : String
  status : UInt16
  messages : OrderedMap String
  data : Data
  stack : Option String
  deriving Inhabited

namespace Report

def blank : Report := ⟨"", "", 0, .empty, .empty, none⟩

def reader : RecordReader Report where
  name := "Report"
  fields :=
    [("errorCode", fun report node => do
        let code ← node.orDefault Node.text
        return { report with code }),
     ("timestamp", fun report node => do
        let timestamp ← node.orDefault Node.text
        return { report with timestamp }),
     ("statusCode", fun report node => do
        let status ← node.orDefault Node.status
        return { report with status }),
     ("message", fun report node => do
        let messages ← node.orDefault (Node.mapOf (depthLimit - 1) Node.text)
        return { report with messages }),
     ("data", fun report node => do
        let data ← node.orDefault (Node.data (depthLimit - 1))
        return { report with data }),
     ("stackTrace", fun report node => do
        let stack ← node.optional Node.text
        return { report with stack })]
  closed := false

def read (document : Document) : Except Problem Report :=
  document.read fun node => (reader.read depthLimit blank node).map Prod.fst

/-- The fault that was sent.  One without a time gets the time of its arrival. -/
def toFault (report : Report) (moment : Moment) : Fault where
  code := report.code
  status := report.status
  timestamp := if report.timestamp = "" then moment.now else report.timestamp
  messages := report.messages
  data := report.data
  cause := none
  stack :=
    match report.stack with
    | some text => .remote text
    | none => .empty

end Report

namespace Brief

def innerReader : RecordReader Brief where
  name := "BriefError"
  fields :=
    [("message", fun brief node => do
        let message ← node.orDefault Node.text
        return { brief with message }),
     ("errorCode", fun brief node => do
        let code ← node.orDefault Node.text
        return { brief with code })]
  closed := false

def reader : RecordReader Brief where
  name := "Brief"
  fields :=
    [("error", fun brief node => do
        let inner ← node.orDefault fun node =>
          (innerReader.read (depthLimit - 1) default node).map Prod.fst
        return { brief with message := inner.message, code := inner.code }),
     ("statusCode", fun brief node => do
        let status ← node.orDefault Node.status
        return { brief with status })]
  closed := false

def read (document : Document) : Except Problem Brief :=
  document.read fun node => (reader.read depthLimit default node).map Prod.fst

end Brief

end FaultMesh
