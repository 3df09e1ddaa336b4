import FaultMesh.Decimal.Double
import FaultMesh.Decimal.Integer
import FaultMesh.OrderedMap

/-!
# Data

The values that callers bind to a fault.  They are those of JSON, with whole numbers kept
apart from reals at every depth and with maps in the order of their keys' first writing.
-/

set_option autoImplicit false

namespace FaultMesh

open Decimal (FitsSigned FitsUnsigned)

/-- A number that JSON can carry: a whole number of 64 bits, signed or not, or a finite
double. -/
inductive Number where
  | whole (value : Int) (fits : FitsSigned 64 value ∨ FitsUnsigned 64 value)
  | real (value : Binary64)
  deriving DecidableEq, Repr

inductive Datum where
  | null
  | boolean (value : Bool)
  | number (value : Number)
  | text (value : String)
  | list (items : List Datum)
  | map (entries : List (String × Datum))
  deriving Inhabited, Repr

abbrev Data := OrderedMap Datum

namespace Number

def ofInt? (value : Int) : Option Number :=
  if h : FitsSigned 64 value ∨ FitsUnsigned 64 value then some (.whole value h) else none

def ofNat? (value : Nat) : Option Number := ofInt? value

/-- Reals are written without an exponent while the first digit counts units of
`10 ^ -5` to `10 ^ 15`, and then keep a fraction digit. -/
def layout : DecimalLayout where
  positional power := -5 ≤ power && power ≤ 15
  wholeFraction := true
  exponentPlus := true

def render : Number → List Char
  | .whole value _ => (toString value).toList
  | .real value => layout.write value

end Number

namespace Datum

mutual

def beq : Datum → Datum → Bool
  | .null, .null => true
  | .boolean a, .boolean b => a == b
  | .number a, .number b => a == b
  | .text a, .text b => a == b
  | .list a, .list b => beqItems a b
  | .map a, .map b => beqEntries a b
  | _, _ => false

def beqItems : List Datum → List Datum → Bool
  | [], [] => true
  | a :: as, b :: bs => beq a b && beqItems as bs
  | _, _ => false

def beqEntries : List (String × Datum) → List (String × Datum) → Bool
  | [], [] => true
  | (k, a) :: as, (l, b) :: bs => k == l && beq a b && beqEntries as bs
  | _, _ => false

end

instance : BEq Datum := ⟨beq⟩

def isNull : Datum → Bool
  | .null => true
  | _ => false

def text? : Datum → Option String
  | .text value => some value
  | _ => none

def get? (key : String) : Datum → Option Datum
  | .map entries => List.lookup key entries
  | _ => none

def at? : List String → Datum → Option Datum
  | [], value => some value
  | key :: path, value => (value.get? key).bind (at? path)

/-- A whole number within 64 bits; others have no exact form and become null. -/
def ofInt (value : Int) : Datum :=
  match Number.ofInt? value with
  | some whole => .number whole
  | none => .null

def ofNat (value : Nat) : Datum := ofInt value

/-- Infinities and what is not a number have no JSON form. -/
def ofDouble : Double → Datum
  | .finite value => .number (.real value)
  | _ => .null

def ofOption {α : Type} (convert : α → Datum) : Option α → Datum
  | some value => convert value
  | none => .null

end Datum

end FaultMesh
