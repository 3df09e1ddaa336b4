/-!
# Binary64 numbers

Finite double precision numbers by their bits, and the correctly rounded double of a
decimal.  A double is `significand · 2 ^ exponent` with a sign.  All arithmetic is exact
on natural numbers: nothing here depends on a floating point unit.
-/

set_option autoImplicit false

namespace FaultMesh

/-- A finite double: its exponent field is not all ones. -/
structure Binary64 where
  bits : UInt64
  finite : (bits >>> 52) &&& 0x7FF ≠ 0x7FF
  deriving DecidableEq

namespace Binary64

instance : Repr Binary64 := ⟨fun x n => reprPrec x.bits n⟩

def ofBits? (bits : UInt64) : Option Binary64 :=
  if h : (bits >>> 52) &&& 0x7FF ≠ 0x7FF then some ⟨bits, h⟩ else none

def zero : Binary64 := ⟨0, by decide⟩

def negativeZero : Binary64 := ⟨0x8000000000000000, by decide⟩

instance : Inhabited Binary64 := ⟨zero⟩

def isNegative (x : Binary64) : Bool := x.bits >>> 63 == 1

def exponentField (x : Binary64) : Nat := ((x.bits >>> 52) &&& 0x7FF).toNat

def fractionField (x : Binary64) : Nat := (x.bits &&& 0xFFFFFFFFFFFFF).toNat

/-- The fraction field holds the numbers below this one, two to the 52nd power. -/
def fractionSpan : Nat := 0x10000000000000

def significand (x : Binary64) : Nat :=
  if x.exponentField = 0 then x.fractionField else x.fractionField + fractionSpan

def exponent (x : Binary64) : Int :=
  if x.exponentField = 0 then -1074 else (x.exponentField : Int) - 1075

def isZero (x : Binary64) : Bool := x.significand == 0

/-- Quotient rounded to the nearest natural number, a tie to the even one. -/
def roundQuotient (numerator denominator : Nat) : Nat :=
  let quotient := numerator / denominator
  let rest := numerator % denominator
  if 2 * rest < denominator then quotient
  else if denominator < 2 * rest then quotient + 1
  else if quotient % 2 = 0 then quotient else quotient + 1

/-- Greatest `k` with `2 ^ k ≤ numerator / denominator`, both being positive. -/
def binaryOrder (numerator denominator : Nat) : Int :=
  let guess : Int := (numerator.log2 : Int) - (denominator.log2 : Int)
  let reached :=
    if 0 ≤ guess then decide (denominator * Nat.pow 2 guess.toNat ≤ numerator)
    else decide (denominator ≤ numerator * Nat.pow 2 (-guess).toNat)
  if reached then guess else guess - 1

def magnitudeBits? (numerator denominator : Nat) : Option Nat :=
  let scale := max (binaryOrder numerator denominator - 52) (-1074)
  let rounded :=
    if 0 ≤ scale then roundQuotient numerator (denominator * Nat.pow 2 scale.toNat)
    else roundQuotient (numerator * Nat.pow 2 (-scale).toNat) denominator
  let (significand, scale) :=
    if rounded = 2 * fractionSpan then (fractionSpan, scale + 1) else (rounded, scale)
  if significand < fractionSpan then some significand
  else if 971 < scale then none
  else some ((scale + 1075).toNat * fractionSpan + (significand - fractionSpan))

def ofMagnitude? (negative : Bool) (magnitude : Nat) : Option Binary64 :=
  ofBits? (UInt64.ofNat (if negative then magnitude + 0x8000000000000000 else magnitude))

/-- The double nearest to `± digits · 10 ^ scale`, ties to even, unless it is too large.
A scale far outside the range of doubles is settled before any power is computed. -/
def ofDecimal? (negative : Bool) (digits : Nat) (scale : Int) : Option Binary64 :=
  if digits = 0 then some (if negative then negativeZero else zero)
  else if 400 < scale then none
  else if scale < -((digits.log2 : Int) + 401) then
    some (if negative then negativeZero else zero)
  else if 0 ≤ scale then
    (magnitudeBits? (digits * Nat.pow 10 scale.toNat) 1).bind (ofMagnitude? negative)
  else
    (magnitudeBits? digits (Nat.pow 10 (-scale).toNat)).bind (ofMagnitude? negative)

end Binary64

end FaultMesh
