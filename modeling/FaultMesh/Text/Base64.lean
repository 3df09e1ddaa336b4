/-!
# Base64

Three octets are written as four digits of six bits each, most significant first.  What is
left at the end, one octet or two, is filled up with zero bits, and a mark stands for each
digit that has no bit of it.
-/

set_option autoImplicit false

namespace FaultMesh.Text.Base64

def digit (value : Nat) : Char :=
  if value < 26 then Char.ofNat (65 + value)
  else if value < 52 then Char.ofNat (71 + value)
  else if value < 62 then Char.ofNat (value - 4)
  else if value = 62 then '+'
  else '/'

def digits (bits : Nat) : List Char :=
  [digit (bits >>> 18 % 64), digit (bits >>> 12 % 64), digit (bits >>> 6 % 64), digit (bits % 64)]

def joined (a b c : UInt8) : Nat := a.toNat * 65536 + b.toNat * 256 + c.toNat

def encode : List UInt8 → List Char
  | [] => []
  | [a] => (digits (joined a 0 0)).take 2 ++ ['=', '=']
  | [a, b] => (digits (joined a b 0)).take 3 ++ ['=']
  | a :: b :: c :: rest => digits (joined a b c) ++ encode rest

end FaultMesh.Text.Base64
