import FaultMesh.Text.Blank

/-!
# Whole numbers in text

A whole number is an optional sign and at least one decimal digit, and must fit the
wanted width.  The minus sign is a sign only where negative numbers are wanted.  The widths
are those of machine words: `FitsUnsigned` and `FitsSigned` say which numbers a word holds.
-/

set_option autoImplicit false

namespace FaultMesh.Decimal

inductive IntegerError where
  | empty
  | invalidDigit
  | tooLarge
  | tooSmall
  deriving DecidableEq, Repr

def IntegerError.message : IntegerError → String
  | .empty => "cannot parse integer from empty string"
  | .invalidDigit => "invalid digit found in string"
  | .tooLarge => "number too large to fit in target type"
  | .tooSmall => "number too small to fit in target type"

/-- A word of this many bits without a sign holds the number. -/
def FitsUnsigned (bits : Nat) (value : Int) : Prop := 0 ≤ value ∧ value < Nat.pow 2 bits

instance (bits : Nat) (value : Int) : Decidable (FitsUnsigned bits value) :=
  inferInstanceAs (Decidable (_ ∧ _))

/-- A word of this many bits, one of them the sign, holds the number. -/
def FitsSigned (bits : Nat) (value : Int) : Prop :=
  -(Nat.pow 2 (bits - 1) : Int) ≤ value ∧ value < Nat.pow 2 (bits - 1)

instance (bits : Nat) (value : Int) : Decidable (FitsSigned bits value) :=
  inferInstanceAs (Decidable (_ ∧ _))

/-- Digits behind those of `value`, from left to right: the first digit that is none, or
that makes the number too large or too small, decides. -/
def readDigits (negative : Bool) (low high : Int) : Int → List Char → Except IntegerError Int
  | value, [] => .ok value
  | value, c :: rest =>
    if ¬ Text.isDigit c then .error .invalidDigit
    else
      let digit : Int := Text.decimalValue [c]
      let value := if negative then value * 10 - digit else value * 10 + digit
      if high < value then .error .tooLarge
      else if value < low then .error .tooSmall
      else readDigits negative low high value rest

/-- At least one digit behind a sign or at the start. -/
def readMagnitude (negative : Bool) (low high : Int) (digits : List Char) :
    Except IntegerError Int :=
  if digits.isEmpty then .error .invalidDigit else readDigits negative low high 0 digits

def readInteger (low high : Int) (text : List Char) : Except IntegerError Int :=
  match text with
  | [] => .error .empty
  | '+' :: digits => readMagnitude false low high digits
  | '-' :: digits =>
    if low < 0 then readMagnitude true low high digits else .error .invalidDigit
  | digits => readMagnitude false low high digits

def readUnsigned (bits : Nat) (text : List Char) : Except IntegerError Nat :=
  (readInteger 0 (Nat.pow 2 bits - 1) text).map Int.toNat

def readSigned (bits : Nat) (text : List Char) : Except IntegerError Int :=
  readInteger (-(Nat.pow 2 (bits - 1) : Int)) (Nat.pow 2 (bits - 1) - 1) text

end FaultMesh.Decimal
