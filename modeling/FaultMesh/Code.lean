import FaultMesh.Decimal.Integer
import FaultMesh.Text.Cut

/-!
# Error codes

A code is `component.status.reason`.  The component owns the code, the status segment
names its status class, and the reason may hold further dots.
-/

set_option autoImplicit false

namespace FaultMesh.Code

def componentChars (code : List Char) : List Char := Text.before '.' code

/-- Leading segment of a code, or all of a code without a dot. -/
def component (code : String) : String :=
  String.ofList (componentChars code.toList)

def statusClassChars? (code : List Char) : Option Nat :=
  match List.splitOn '.' code with
  | _ :: segment :: _ => (Decimal.readUnsigned 16 segment).toOption
  | _ => none

/-- Number in the second segment of a code. -/
def statusClass? (code : String) : Option Nat :=
  statusClassChars? code.toList

/-- The three parts of a code; the third one is all that follows the second dot. -/
def parts? (code : List Char) : Option (List Char × List Char × List Char) := do
  let (component, rest) ← Text.splitOnce? '.' code
  let (status, reason) ← Text.splitOnce? '.' rest
  return (component, status, reason)

def isValidChars (code : List Char) : Bool :=
  match parts? code with
  | some (component, status, reason) =>
    !component.isEmpty && !reason.isEmpty && !status.isEmpty && status.all Text.isDigit
  | none => false

/-- Whether a code has three parts, none empty, with digits in the second. -/
def isValid (code : String) : Bool :=
  isValidChars code.toList

end FaultMesh.Code
