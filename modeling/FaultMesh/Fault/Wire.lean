import FaultMesh.Fault
import FaultMesh.Json.Writer

/-!
# Faults on the wire

A fault is sent in one of two shapes.  The full shape has everything but the cause, and
the text of the stack where it is known.  The brief shape has the code, the status and one
message: it is what a caller from outside may see.
-/

set_option autoImplicit false

namespace FaultMesh

structure Brief where
  code : String
  message : String
  status : UInt16
  deriving DecidableEq, Repr, Inhabited

namespace Brief

def identity (brief : Brief) : Identity := ⟨brief.code, brief.status⟩

def datum (brief : Brief) : Datum :=
  .map
    [("error", .map [("message", .text brief.message), ("errorCode", .text brief.code)]),
     ("statusCode", .ofNat brief.status.toNat)]

def toFault (brief : Brief) (moment : Moment) : Fault :=
  .minimal moment brief.code brief.status brief.message

end Brief

namespace Fault

def datum (fault : Fault) : Datum :=
  .map <|
    [("errorCode", .text fault.code),
     ("timestamp", .text fault.timestamp),
     ("statusCode", .ofNat fault.status.toNat),
     ("message", .map (fault.messages.mapValues .text).entries),
     ("data", .map fault.data.entries)] ++
    match fault.stack.rendered? with
    | some text => [("stackTrace", .text text)]
    | none => []

def brief (fault : Fault) (locale : String) : Brief :=
  ⟨fault.code, fault.message locale, fault.status⟩

/-- What a caller gets to see: everything when debugging, else the brief shape. -/
def project (fault : Fault) (debug : Bool) (locale : String) : Datum :=
  if debug then fault.datum else (fault.brief locale).datum

def body (fault : Fault) (debug : Bool) (locale : String) : List Char :=
  Json.write (fault.project debug locale)

end Fault

end FaultMesh
