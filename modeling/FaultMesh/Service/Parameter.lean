/-!
# Parameters of requests

Why a parameter of a query or of a path is refused.
-/

set_option autoImplicit false

namespace FaultMesh

inductive ParameterError where
  | notAnInteger (parameter value : String)
  | limitOutOfRange (value : Int) (most : Nat)
  | negativeOffset (value : Int)
  | mismatch (name value : String)
  deriving DecidableEq, Repr

namespace ParameterError

def message : ParameterError → String
  | .notAnInteger parameter value => s!"{parameter} '{value}' is not a valid integer"
  | .limitOutOfRange value most => s!"limit '{value}' must be between 1 and {most}"
  | .negativeOffset value => s!"offset '{value}' is not a positive integer"
  | .mismatch _ value => s!"parameter '{value}' does not match the expected format"

def parameter : ParameterError → String
  | .notAnInteger parameter _ => parameter
  | .limitOutOfRange _ _ => "limit"
  | .negativeOffset _ => "offset"
  | .mismatch name _ => name

end ParameterError

end FaultMesh
