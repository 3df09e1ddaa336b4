import FaultMesh.Config
import FaultMesh.Service.Parameter

/-!
# Path parameters

A gate in front of the routes of a service: every parameter of a path has to match a
pattern, and none may hold a slash.  The standard pattern takes a random identifier in
lower case or a number.
-/

set_option autoImplicit false

namespace FaultMesh

/-- Decoded parameters of a path in order, or the name of the first that is no text. -/
abbrev PathParameters := Except String (List (String × String))

structure PathGate where
  pattern : Regex

namespace PathGate

def digit : CharSet := .range 0x30 0x39

def lowerHex : CharSet := .union digit (.range 0x61 0x66)

def variantDigit : CharSet := .union (.range 0x38 0x39) (.range 0x61 0x62)

def exactly (count : Nat) (set : CharSet) : Regex := .times count (.one set)

def whole (body : Regex) : Regex :=
  .sequence (.assertion .start) (.sequence body (.assertion .stop))

def hyphen : Regex := .one (.single '-')

/-- Groups of 8, 4, 4, 4 and 12 digits, with the version and the variant in their places. -/
def identifier : Regex :=
  .sequences
    [exactly 8 lowerHex, hyphen, exactly 4 lowerHex, hyphen,
     .one (.single '4'), exactly 3 lowerHex, hyphen,
     .one variantDigit, exactly 3 lowerHex, hyphen, exactly 12 lowerHex]

def number : Regex := .repeated (.one digit) 1 none

def standard : PathGate := ⟨.either (whole identifier) (whole number)⟩

/-- The gate of the configured pattern, or else the standard one. -/
def ofSettings (api : ApiSettings) : Except Regex.Pattern.Flaw PathGate :=
  match api.pathPattern with
  | none => .ok standard
  | some pattern => (Regex.ofPattern pattern).map PathGate.mk

def accepts (gate : PathGate) (value : String) : Bool := gate.pattern.isMatch value.toList

inductive Verdict where
  | pass
  | notFound
  | refused (reason : ParameterError)
  deriving DecidableEq, Repr

/-- The first parameter that does not pass decides. -/
def check (gate : PathGate) : List (String × String) → Verdict
  | [] => .pass
  | (name, value) :: rest =>
    if value.toList.contains '/' then .notFound
    else if gate.accepts value then gate.check rest
    else .refused (.mismatch name value)

/-- Parameters of which one is no text are not looked at. -/
def verdict (gate : PathGate) (parameters : PathParameters) : Verdict :=
  match parameters with
  | .ok values => gate.check values
  | .error _ => .pass

end PathGate

end FaultMesh
