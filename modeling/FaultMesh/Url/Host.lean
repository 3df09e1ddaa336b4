import FaultMesh.Network.Address
import FaultMesh.Text.CaseFold
import FaultMesh.Url.Percent
import FaultMesh.Url.Punycode

/-!
# Hosts of URLs

The host of a URL with a known scheme is a name, brought to its ASCII form, or an address:
a name whose last part is a number is one of four numbers, in any base and with parts left
out.  Other schemes take a host as it is written.
-/

set_option autoImplicit false

namespace FaultMesh

namespace Url

inductive Problem where
  | relative
  | emptyHost
  | invalidPort
  | invalidIpv4
  | invalidIpv6
  | invalidName
  | invalidCharacter
  deriving DecidableEq, Repr

def Problem.message : Problem → String
  | .relative => "relative URL without a base"
  | .emptyHost => "empty host"
  | .invalidPort => "invalid port number"
  | .invalidIpv4 => "invalid IPv4 address"
  | .invalidIpv6 => "invalid IPv6 address"
  | .invalidName => "invalid international domain name"
  | .invalidCharacter => "invalid domain character"

inductive Host where
  | domain (name : String)
  | ipv4 (address : Ipv4)
  | ipv6 (address : Ipv6)
  deriving DecidableEq, Repr

namespace Host

def render : Host → String
  | .domain name => name
  | .ipv4 address => address.render
  | .ipv6 address => "[" ++ address.renderGroups ++ "]"

def isIgnored (c : Char) : Bool :=
  c.toNat = 0xAD || c.toNat = 0x200B || c.toNat = 0x2060 || c.toNat = 0xFEFF ||
    (0xFE00 ≤ c.toNat && c.toNat ≤ 0xFE0F)

def mapNameChar (c : Char) : Char :=
  if c = 'ς' then c
  else if 0xFF01 ≤ c.toNat ∧ c.toNat ≤ 0xFF5E then
    Text.lowerAscii (Char.ofNat (c.toNat - 0xFEE0))
  else if c = '\u3002' ∨ c = '\uFF0E' ∨ c = '\uFF61' then '.'
  else Text.foldCase c

def isForbidden (c : Char) : Bool :=
  c.toNat ≤ 0x20 || c.toNat = 0x7F || "%#/:<>?@[\\]^|".toList.contains c

def isNameChar (c : Char) : Bool :=
  c.toNat < 0x80 ||
    ((Text.isShown c || Text.isMark c) && c.toNat ≠ 0xFFFD && !Text.isBlank c)

def asciiLabel? (label : List Char) : Option (List Char) :=
  match label with
  | 'x' :: 'n' :: '-' :: '-' :: rest =>
    if label.all fun c => c.toNat < 0x80 then
      match Punycode.decode? rest with
      | some decoded =>
        if decoded.any (fun c => 0x80 ≤ c.toNat) ∧ decoded.all isNameChar ∧
            decoded.map mapNameChar = decoded then some label
        else none
      | none => none
    else none
  | c :: _ =>
    if label.all fun c => c.toNat < 0x80 then some label
    else if Text.isMark c ∨ ¬ label.all isNameChar then none
    else some ("xn--".toList ++ Punycode.encode label)
  | [] => some []

def asciiName? (name : List Char) : Option (List Char) := do
  let mapped := (name.filter fun c => !isIgnored c).map mapNameChar
  let labels ← (List.splitOn '.' mapped).mapM asciiLabel?
  let ascii := List.intercalate ['.'] labels
  if ascii.any isForbidden then none else return ascii

def valueInBase? (base : Nat) (text : List Char) : Option Nat :=
  if text.all fun c => Text.isHexDigit c && Text.hexValue c < base then
    some (text.foldl (fun n c => n * base + Text.hexValue c) 0)
  else none

/-- A number in base eight, ten or sixteen by how it begins. -/
def number? (text : List Char) : Option Nat :=
  match text with
  | [] => none
  | '0' :: 'x' :: digits => valueInBase? 16 digits
  | '0' :: 'X' :: digits => valueInBase? 16 digits
  | '0' :: d :: digits => valueInBase? 8 (d :: digits)
  | digits => valueInBase? 10 digits

def nameParts (name : List Char) : List (List Char) :=
  let parts := List.splitOn '.' name
  match parts.reverse with
  | [] :: before => before.reverse
  | _ => parts

def endsInNumber (name : List Char) : Bool :=
  match (nameParts name).getLast? with
  | none => false
  | some last => (!last.isEmpty && last.all Text.isDigit) || (number? last).isSome

/-- Numbers of which all but the last fill one part each. -/
def addressValue? (numbers : List Nat) : Option Nat :=
  match numbers.reverse with
  | [] => none
  | last :: before =>
    let before := before.reverse
    if 3 < before.length ∨ Nat.pow 256 (4 - before.length) ≤ last ∨ before.any (255 < ·) then none
    else
      some ((before.zipIdx.map fun (n, index) => n * Nat.pow 256 (3 - index)).foldl (· + ·) last)

def ipv4? (name : List Char) : Option Ipv4 := do
  let numbers ← (nameParts name).mapM number?
  let value ← addressValue? numbers
  return Ipv4.ofValue value

def readIpv6 (text : List Char) : Except Problem Host :=
  if text.getLast? = some ']' then
    match Ipv6.read? text.dropLast with
    | some address => .ok (.ipv6 address)
    | none => .error .invalidIpv6
  else .error .invalidIpv6

def read (text : List Char) : Except Problem Host :=
  match text with
  | '[' :: rest => readIpv6 rest
  | text =>
    let name := (Text.Utf8.decodeLossy (Percent.decodeText text)).toList
    match asciiName? name with
    | none => .error .invalidName
    | some [] => .error .emptyHost
    | some ascii =>
      if endsInNumber ascii then
        match ipv4? ascii with
        | some address => .ok (.ipv4 address)
        | none => .error .invalidIpv4
      else .ok (.domain (String.ofList ascii))

def readOpaque (text : List Char) : Except Problem Host :=
  match text with
  | '[' :: rest => readIpv6 rest
  | text =>
    if text.any fun c => c.toNat = 0 || "\t\n\r #/:<>?@[\\]^|".toList.contains c then
      .error .invalidCharacter
    else .ok (.domain (String.ofList (Percent.encode (fun _ => false) text)))

end Host

end Url

end FaultMesh
