import FaultMesh.Text.Blank
import FaultMesh.Text.Utf8

/-!
# Percent encoding

An octet is written as a percent sign and two hexadecimal digits.  Which ASCII characters
need it depends on the place; every other character always does.
-/

set_option autoImplicit false

namespace FaultMesh.Percent

def upperHexDigit (n : Nat) : Char :=
  if n < 10 then Char.ofNat (48 + n) else Char.ofNat (55 + n)

def encodeOctet (octet : UInt8) : List Char :=
  ['%', upperHexDigit (octet.toNat / 16), upperHexDigit (octet.toNat % 16)]

def encodeChar (needed : Char → Bool) (c : Char) : List Char :=
  if 0x7F ≤ c.toNat || c.toNat < 0x20 || needed c then (String.utf8EncodeChar c).flatMap encodeOctet
  else [c]

def encode (needed : Char → Bool) (text : List Char) : List Char :=
  text.flatMap (encodeChar needed)

def octetOf? (high low : UInt8) : Option UInt8 := do
  let high ← Text.digitValue? (Char.ofNat high.toNat)
  let low ← Text.digitValue? (Char.ofNat low.toNat)
  return UInt8.ofNat (high * 16 + low)

/-- Decodes octets; a percent sign without two digits stands for itself. -/
def decode : List UInt8 → List UInt8
  | [] => []
  | [a] => [a]
  | [a, b] => [a, b]
  | a :: b :: c :: rest =>
    if a = 37 then
      match octetOf? b c with
      | some octet => octet :: decode rest
      | none => a :: decode (b :: c :: rest)
    else a :: decode (b :: c :: rest)

def decodeText (text : List Char) : List UInt8 :=
  decode (Text.Utf8.encode text)

end FaultMesh.Percent
