import FaultMesh.Decimal.Binary64

/-!
# Shortest decimals

The decimal of fewest digits that reads back as a given double, and of those the one
nearest to it.  For one, two, … seventeen digits the two neighbours of the double on that
decimal grid are read back; the first grid with a hit decides.  Seventeen digits always
suffice, and the exact expansion stands behind them, so that what is found reads back.
-/

set_option autoImplicit false

namespace FaultMesh

/-- A positive decimal `0.d₁d₂… · 10 ^ point`: digits most significant first. -/
structure DecimalDigits where
  digits : List Char
  point : Int
  deriving DecidableEq, Repr

namespace Decimal

def atLeastPower (numerator denominator : Nat) (k : Int) : Bool :=
  if 0 ≤ k then decide (denominator * Nat.pow 10 k.toNat ≤ numerator)
  else decide (denominator ≤ numerator * Nat.pow 10 (-k).toNat)

/-- Greatest `k` with `10 ^ k ≤ numerator / denominator`, both being positive. -/
def order (numerator denominator : Nat) : Int :=
  let binary := Binary64.binaryOrder numerator denominator
  let guess := (binary * 30103).fdiv 100000
  if atLeastPower numerator denominator (guess + 1) then guess + 1
  else if atLeastPower numerator denominator guess then guess
  else guess - 1

def quotient (x : Binary64) : Nat × Nat :=
  if 0 ≤ x.exponent then (x.significand * Nat.pow 2 x.exponent.toNat, 1)
  else (x.significand, Nat.pow 2 (-x.exponent).toNat)

def readsBack (x : Binary64) (digits : Nat) (scale : Int) : Bool :=
  Binary64.ofDecimal? x.isNegative digits scale == some x

def neighbour? (x : Binary64) (count : Nat) : Option (Nat × Int) :=
  let (numerator, denominator) := quotient x
  let scale := order numerator denominator + 1 - count
  let (scaledNumerator, scaledDenominator) :=
    if 0 ≤ scale then (numerator, denominator * Nat.pow 10 scale.toNat)
    else (numerator * Nat.pow 10 (-scale).toNat, denominator)
  let below := scaledNumerator / scaledDenominator
  let rest := scaledNumerator % scaledDenominator
  let nearer := if 2 * rest ≤ scaledDenominator then below else below + 1
  let farther := if 2 * rest ≤ scaledDenominator then below + 1 else below
  if readsBack x nearer scale then some (nearer, scale)
  else if readsBack x farther scale then some (farther, scale)
  else none

/-- All digits of a double: `m · 2 ^ -k` is `m · 5 ^ k · 10 ^ -k`. -/
def exact (x : Binary64) : Nat × Int :=
  if 0 ≤ x.exponent then (x.significand * Nat.pow 2 x.exponent.toNat, 0)
  else (x.significand * Nat.pow 5 (-x.exponent).toNat, x.exponent)

def shortest (x : Binary64) : Nat × Int :=
  ((List.range 17).findSome? fun i => neighbour? x (i + 1)).getD (exact x)

def dropTrailingZeros (digits : List Char) : List Char :=
  (digits.reverse.dropWhile (· = '0')).reverse

/-- The shortest decimal of a double other than zero, without its sign.  A neighbour that
is the next power of ten ends in zeros, which are no digits of it. -/
def shortestDigits (x : Binary64) : DecimalDigits :=
  let (digits, scale) := shortest x
  let text := Nat.toDigits 10 digits
  ⟨dropTrailingZeros text, scale + text.length⟩

end Decimal

/-- How a double is written: the powers of ten of the first digit that are still written
without an exponent, and whether a whole number keeps a fraction digit. -/
structure DecimalLayout where
  positional : Int → Bool
  wholeFraction : Bool
  exponentPlus : Bool

namespace DecimalLayout

def zeros (count : Nat) : List Char := List.replicate count '0'

def writePositional (layout : DecimalLayout) (decimal : DecimalDigits) : List Char :=
  let count : Int := decimal.digits.length
  if decimal.point ≤ 0 then
    '0' :: '.' :: (zeros (-decimal.point).toNat ++ decimal.digits)
  else if count ≤ decimal.point then
    decimal.digits ++ zeros (decimal.point - count).toNat ++
      (if layout.wholeFraction then ['.', '0'] else [])
  else
    decimal.digits.take decimal.point.toNat ++ '.' :: decimal.digits.drop decimal.point.toNat

def writeScientific (layout : DecimalLayout) (decimal : DecimalDigits) : List Char :=
  let power := decimal.point - 1
  let mantissa :=
    match decimal.digits with
    | [] => []
    | [digit] => [digit]
    | digit :: rest => digit :: '.' :: rest
  let sign := if power < 0 then ['-'] else if layout.exponentPlus then ['+'] else []
  mantissa ++ 'e' :: (sign ++ Nat.toDigits 10 power.natAbs)

def write (layout : DecimalLayout) (x : Binary64) : List Char :=
  let sign := if x.isNegative then ['-'] else []
  if x.isZero then sign ++ '0' :: (if layout.wholeFraction then ['.', '0'] else [])
  else
    let decimal := Decimal.shortestDigits x
    sign ++
      if layout.positional (decimal.point - 1) then layout.writePositional decimal
      else layout.writeScientific decimal

end DecimalLayout

end FaultMesh
