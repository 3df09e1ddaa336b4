import FaultMesh.Decimal.Integer
import FaultMesh.Text.Quoted

/-!
# Mismatches

Why a well-formed document does not hold what is wanted of it.  The same reports are made
for every document format; the format only chooses how a number or an absent value is
called.
-/

set_option autoImplicit false

namespace FaultMesh.Schema

/-- What stands in a document at the place of something else. -/
inductive Found where
  | null
  | boolean (value : Bool)
  | integer (value : Int)
  | wideInteger (value : Int)
  | real (digits : String)
  | text (value : String)
  | sequence
  | map
  deriving DecidableEq, Repr

def Found.describe : Found → String
  | .null => "null"
  | .boolean value => s!"boolean `{value}`"
  | .integer value => s!"integer `{value}`"
  | .wideInteger value =>
    let width := if Decimal.FitsSigned 128 value then "i128" else "u128"
    s!"integer `{value}` as {width}"
  | .real digits => s!"floating point `{digits}`"
  | .text value => "string " ++ Text.quoted value
  | .sequence => "sequence"
  | .map => "map"

inductive Mismatch where
  | wrongType (found : Found) (expected : String)
  | wrongValue (found : Found) (expected : String)
  | wrongLength (count : Nat) (expected : String)
  | unknownField (name : String) (known : List String)
  | missingField (name : String)
  | repeatedField (name : String)
  | refused (reason : String)
  deriving DecidableEq, Repr

def nameText (name : String) : String := s!"`{name}`"

def knownText : List String → String
  | [] => "there are no fields"
  | [one] => "expected " ++ nameText one
  | [one, other] => "expected " ++ nameText one ++ " or " ++ nameText other
  | known => "expected one of " ++ ", ".intercalate (known.map nameText)

def Mismatch.message : Mismatch → String
  | .wrongType found expected => s!"invalid type: {found.describe}, expected {expected}"
  | .wrongValue found expected => s!"invalid value: {found.describe}, expected {expected}"
  | .wrongLength count expected => s!"invalid length {count}, expected {expected}"
  | .unknownField name known => s!"unknown field `{name}`, {knownText known}"
  | .missingField name => s!"missing field `{name}`"
  | .repeatedField name => s!"duplicate field `{name}`"
  | .refused reason => reason

end FaultMesh.Schema
