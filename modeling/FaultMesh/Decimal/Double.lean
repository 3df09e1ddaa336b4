import FaultMesh.Decimal.Shortest
import FaultMesh.Text.Blank
import FaultMesh.Text.Cut

/-!
# Doubles with their exceptional values

A double is finite, infinite or not a number.  In text it is a sign, digits with a point
somewhere and an exponent, or one of the words for an exceptional value; a number that is
too large reads as infinite.
-/

set_option autoImplicit false

namespace FaultMesh

inductive Double where
  | finite (value : Binary64)
  | infinite (negative : Bool)
  | notANumber
  deriving DecidableEq, Repr

namespace Double

/-- The double nearest to `± digits · 10 ^ scale`. -/
def ofDecimal (negative : Bool) (digits : Nat) (scale : Int) : Double :=
  match Binary64.ofDecimal? negative digits scale with
  | some value => .finite value
  | none => .infinite negative

def readPower? (text : List Char) : Option Int :=
  let (negative, digits) :=
    match text with
    | '+' :: rest => (false, rest)
    | '-' :: rest => (true, rest)
    | digits => (false, digits)
  if digits.isEmpty ∨ ¬ digits.all Text.isDigit then none
  else
    let value : Int := Text.decimalValue digits
    some (if negative then -value else value)

def readMagnitude? (negative : Bool) (text : List Char) : Option Double := do
  let (mantissa, power) ←
    match Text.splitOnce? 'e' text with
    | some (mantissa, power) => (readPower? power).map fun power => (mantissa, power)
    | none => some (text, 0)
  let (whole, places) := (Text.splitOnce? '.' mantissa).getD (mantissa, [])
  let digits := whole ++ places
  if digits.isEmpty ∨ ¬ digits.all Text.isDigit then none
  else return ofDecimal negative (Text.decimalValue digits) (power - places.length)

def read? (text : List Char) : Option Double :=
  let (negative, magnitude) :=
    match text.map Text.lowerAscii with
    | '+' :: rest => (false, rest)
    | '-' :: rest => (true, rest)
    | rest => (false, rest)
  if magnitude = "inf".toList ∨ magnitude = "infinity".toList then some (.infinite negative)
  else if magnitude = "nan".toList then some .notANumber
  else readMagnitude? negative magnitude

/-- All digits of a double, with at least one behind the point. -/
def plainLayout : DecimalLayout where
  positional _ := true
  wholeFraction := true
  exponentPlus := false

def render : Double → String
  | .finite value => String.ofList (plainLayout.write value)
  | .infinite negative => if negative then "-inf" else "inf"
  | .notANumber => "NaN"

end Double

end FaultMesh
