import FaultMesh.Decimal.Integer
import FaultMesh.Text.Cut

/-!
# Network addresses

Addresses of both families in text.  An address of eight groups is written with its first
longest run of at least two zero groups left out.
-/

set_option autoImplicit false

namespace FaultMesh

structure Ipv4 where
  a : UInt8
  b : UInt8
  c : UInt8
  d : UInt8
  deriving DecidableEq, Repr

structure Ipv6 where
  groups : List UInt16
  complete : groups.length = 8
  deriving DecidableEq, Repr

namespace Ipv4

def render (address : Ipv4) : String :=
  s!"{address.a}.{address.b}.{address.c}.{address.d}"

/-- The address with a value of 32 bits. -/
def ofValue (value : Nat) : Ipv4 :=
  ⟨UInt8.ofNat (value >>> 24), UInt8.ofNat (value >>> 16), UInt8.ofNat (value >>> 8),
    UInt8.ofNat value⟩

/-- One to three digits without a needless zero, below 256. -/
def readPart? (text : List Char) : Option UInt8 :=
  if text.isEmpty ∨ 3 < text.length ∨ ¬ text.all Text.isDigit then none
  else if text.head? = some '0' ∧ 1 < text.length then none
  else
    let value := Text.decimalValue text
    if value < 256 then some (UInt8.ofNat value) else none

def read? (text : List Char) : Option Ipv4 :=
  match List.splitOn '.' text with
  | [a, b, c, d] => do
    let a ← readPart? a
    let b ← readPart? b
    let c ← readPart? c
    let d ← readPart? d
    return ⟨a, b, c, d⟩
  | _ => none

/-- The two groups that an address fills. -/
def groups (address : Ipv4) : List UInt16 :=
  [address.a.toUInt16 * 256 + address.b.toUInt16, address.c.toUInt16 * 256 + address.d.toUInt16]

end Ipv4

namespace Ipv6

def ofGroups? (groups : List UInt16) : Option Ipv6 :=
  if h : groups.length = 8 then some ⟨groups, h⟩ else none

/-- Start and length of the first longest run of zeros. -/
def longestZeros (index : Nat) : List UInt16 → Nat × Nat
  | [] => (index, 0)
  | group :: groups =>
    let here := ((group :: groups).takeWhile (· = 0)).length
    let (start, length) := longestZeros (index + 1) groups
    if length ≤ here then (index, here) else (start, length)

def hexGroup (group : UInt16) : List Char := Nat.toDigits 16 group.toNat

def joinGroups (groups : List UInt16) : List Char :=
  List.intercalate [':'] (groups.map hexGroup)

/-- Groups in hexadecimal, with the longest run of zeros left out. -/
def renderGroups (address : Ipv6) : String :=
  let (start, length) := longestZeros 0 address.groups
  String.ofList <|
    if length < 2 then joinGroups address.groups
    else
      joinGroups (address.groups.take start) ++ [':', ':'] ++
        joinGroups (address.groups.drop (start + length))

/-- An address of the other family within this one is written in its own form. -/
def render (address : Ipv6) : String :=
  match address.groups with
  | [0, 0, 0, 0, 0, 0xFFFF, high, low] =>
    "::ffff:" ++ (Ipv4.ofValue (high.toNat * UInt16.size + low.toNat)).render
  | _ => address.renderGroups

def readGroup? (text : List Char) : Option UInt16 :=
  if text.isEmpty ∨ 4 < text.length ∨ ¬ text.all Text.isHexDigit then none
  else some (UInt16.ofNat (text.foldl (fun n c => n * 16 + Text.hexValue c) 0))

/-- Groups with a colon between them; the last part may be an address of four numbers. -/
def readParts? : List (List Char) → Option (List UInt16)
  | [] => some []
  | [part] =>
    match readGroup? part with
    | some group => some [group]
    | none => (Ipv4.read? part).map Ipv4.groups
  | part :: parts => do
    let group ← readGroup? part
    let groups ← readParts? parts
    return group :: groups

def readGroups? (text : List Char) : Option (List UInt16) :=
  if text.isEmpty then some [] else readParts? (List.splitOn ':' text)

/-- The parts before and behind the first two colons in a row. -/
def splitGap? : List Char → Option (List Char × List Char)
  | ':' :: ':' :: rest => some ([], rest)
  | c :: rest => (splitGap? rest).map fun (before, after) => (c :: before, after)
  | [] => none

def read? (text : List Char) : Option Ipv6 :=
  match splitGap? text with
  | none => (readGroups? text).bind ofGroups?
  | some (before, after) => do
    let head ← readGroups? before
    let tail ← readGroups? after
    if before.contains '.' ∨ 7 < head.length + tail.length then none
    else ofGroups? (head ++ List.replicate (8 - head.length - tail.length) 0 ++ tail)

end Ipv6

inductive SocketAddress where
  | v4 (address : Ipv4) (port : UInt16)
  | v6 (address : Ipv6) (scope : UInt32) (port : UInt16)
  deriving DecidableEq, Repr

namespace SocketAddress

def readNumber? (bound : Nat) (text : List Char) : Option Nat :=
  if text.isEmpty ∨ ¬ text.all Text.isDigit then none
  else
    let value := Text.decimalValue text
    if value < bound then some value else none

def readPort? (text : List Char) : Option UInt16 :=
  (readNumber? UInt16.size text).map UInt16.ofNat

def read? (text : List Char) : Option SocketAddress :=
  match text with
  | '[' :: rest => do
    let (inside, rest) ← Text.splitOnce? ']' rest
    let (address, scope) ←
      match Text.splitOnce? '%' inside with
      | none => some (inside, 0)
      | some (address, scope) => (readNumber? UInt32.size scope).map fun scope => (address, scope)
    let address ← Ipv6.read? address
    match rest with
    | ':' :: port => do
      let port ← readPort? port
      return .v6 address (UInt32.ofNat scope) port
    | _ => none
  | text => do
    let (address, port) ← Text.splitOnce? ':' text
    let address ← Ipv4.read? address
    let port ← readPort? port
    return .v4 address port

def port : SocketAddress → UInt16
  | .v4 _ port => port
  | .v6 _ _ port => port

def render : SocketAddress → String
  | .v4 address port => s!"{address.render}:{port}"
  | .v6 address scope port =>
    let scope := if scope = 0 then "" else s!"%{scope}"
    s!"[{address.render}{scope}]:{port}"

end SocketAddress

end FaultMesh
