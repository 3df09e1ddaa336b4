import FaultMesh.Decimal.Shortest

/-!
# Scaled decimals

A quick way to read a decimal: its digits make a whole number, as far as 64 bits hold it,
and this number is multiplied or divided by a power of ten, all of it in doubles.  The
number, the power and their product are each rounded, so the double that comes out can be
a neighbour of the one nearest to the decimal.  Short decimals of moderate size are read
exactly.
-/

set_option autoImplicit false

namespace FaultMesh.Binary64

open Decimal (quotient)

def ofQuotient? (negative : Bool) (numerator denominator : Nat) : Option Binary64 :=
  (magnitudeBits? numerator denominator).bind (ofMagnitude? negative)

/-- Product of two doubles; their own signs are not looked at. -/
def product? (negative : Bool) (x y : Binary64) : Option Binary64 :=
  ofQuotient? negative ((quotient x).1 * (quotient y).1) ((quotient x).2 * (quotient y).2)

/-- Quotient of two doubles; their own signs are not looked at. -/
def ratio? (negative : Bool) (x y : Binary64) : Option Binary64 :=
  ofQuotient? negative ((quotient x).1 * (quotient y).2) ((quotient x).2 * (quotient y).1)

def greatestPower : Nat := 308

def powerOfTen? (power : Nat) : Option Binary64 :=
  ofQuotient? false (Nat.pow 10 power) 1

/-- Divides by the greatest power of ten some times, while anything is left. -/
def shrink? : Nat → Binary64 → Option Binary64
  | 0, x => some x
  | times + 1, x => do
    if x.isZero then return x
    let next ← ratio? false x (← powerOfTen? greatestPower)
    shrink? times next

def scaled? (negative : Bool) (significand : Nat) (power : Int) : Option Binary64 := do
  let x ← ofQuotient? false significand 1
  if 0 ≤ power then
    if power ≤ greatestPower then product? negative x (← powerOfTen? power.toNat)
    else if significand = 0 then ofQuotient? negative 0 1
    else none
  else
    let times := ((-power).toNat - 1) / greatestPower
    let x ← shrink? times x
    ratio? negative x (← powerOfTen? ((-power).toNat - times * greatestPower))

end FaultMesh.Binary64
