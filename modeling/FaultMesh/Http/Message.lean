import FaultMesh.Fault.Wire
import FaultMesh.Http.Target
import FaultMesh.Http.Token

/-!
# Requests and responses

Header fields keep the order in which they were given, and a name may occur more than
once.  A response that answers with a fault also carries the fault, for whatever wraps the
service.
-/

set_option autoImplicit false

namespace FaultMesh.Http

abbrev Fields := List (String × String)

inductive FieldError where
  | invalidName (name : String)
  | invalidValue (name : String)
  deriving DecidableEq, Repr

def FieldError.message : FieldError → String
  | .invalidName name => s!"invalid header name '{name}': invalid HTTP header name"
  | .invalidValue name =>
    s!"invalid value for header '{name}': failed to parse header value"

namespace Fields

def append (fields : Fields) (name value : String) : Except FieldError Fields :=
  if !isFieldName name then .error (.invalidName name)
  else if !isFieldValue value then .error (.invalidValue (canonicalName name))
  else .ok (fields ++ [(canonicalName name, value)])

/-- Adds fields in order up to the first that cannot be. -/
def appendAll (fields : Fields) : List (String × String) → Except FieldError Fields
  | [] => .ok fields
  | (name, value) :: rest => do
    let fields ← fields.append name value
    fields.appendAll rest

/-- The first value of a name in lower case. -/
def first? (fields : Fields) (name : String) : Option String := fields.lookup name

end Fields

structure Request where
  method : String
  target : Target
  fields : Fields
  deriving DecidableEq, Repr

structure Response where
  status : Nat
  fields : Fields
  body : String
  fault : Option Fault

namespace Response

def bare (status : Nat) : Response := ⟨status, [], "", none⟩

def plain (status : Nat) (body : String) : Response :=
  ⟨status, [("content-type", "text/plain; charset=utf-8")], body, none⟩

def json (status : Nat) (value : Datum) : Response :=
  ⟨status, [("content-type", "application/json")], Json.render value, none⟩

/-- The answer with a fault, in full to a request in debug mode. -/
def ofFault (fault : Fault) (debug : Bool) (locale : String) : Response :=
  { json fault.httpStatus (fault.project debug locale) with fault := some fault }

def withField (response : Response) (name value : String) : Response :=
  { response with fields := response.fields ++ [(name, value)] }

def field? (response : Response) (name : String) : Option String := response.fields.first? name

end Response

end FaultMesh.Http
