import FaultMesh.Fault.Reading
import FaultMesh.Reporter

/-!
# Inbound faults

What the body of a failing response says.  It is read as the full shape, else as the brief
one; a body that is neither is wrapped whole in a fault of its own, so that nothing of it
is lost.
-/

set_option autoImplicit false

namespace FaultMesh

/-- Why a body is not a fault. -/
inductive Foreign where
  | unrecognized
  | malformed (problem : String)
  deriving DecidableEq, Repr

namespace Foreign

def message : Foreign → String
  | .unrecognized => "downstream error response has no recognizable error shape"
  | .malformed problem => "downstream error response is not valid JSON: " ++ problem

def cause (foreign : Foreign) : Cause :=
  match foreign with
  | .unrecognized => .plain foreign.message
  | .malformed problem => .wrap foreign.message (.plain problem)

end Foreign

namespace Inbound

/-- The fault that a body says it is. -/
def recognize? (moment : Moment) (document : Json.Document) : Option Fault :=
  match Report.read document with
  | .ok report =>
    if report.code ≠ "" then some (report.toFault moment) else brief? moment document
  | .error _ => brief? moment document
where
  /-- The fault of a body in the brief shape. -/
  brief? (moment : Moment) (document : Json.Document) : Option Fault :=
    match Brief.read document with
    | .ok brief => if brief.code ≠ "" then some (brief.toFault moment) else none
    | .error _ => none

/-- The whole of a body that is no fault, and why it is none. -/
def foreign (octets : List UInt8) (document : Json.Document) : Datum × Foreign :=
  match document.datum with
  | .ok value => (value, .unrecognized)
  | .error problem =>
    (.text (Text.Utf8.decodeLossy octets), .malformed (problem.message octets))

def responseKey : String := "Response"

/-- The fault of the body of a failing response. -/
def decode (reporter : Reporter) (ambient : Ambient) (octets : List UInt8) :
    Fault × List Log.Event :=
  let document := Json.parse octets
  match recognize? ambient.moment document with
  | some fault => (fault, [])
  | none =>
    let (response, reason) := foreign octets document
    reporter.builtin ambient .requesterErrorResponseFailure
      (.ofList [(responseKey, response)]) [reason.cause]

end Inbound

end FaultMesh
