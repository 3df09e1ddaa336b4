import FaultMesh.Text.Blank

/-!
# Punycode

A label with characters beyond ASCII as one of ASCII letters and digits: its ASCII
characters first, then the others by their distances, smallest first, in numbers whose
digits have thresholds that adapt to what was written before.
-/

set_option autoImplicit false

namespace FaultMesh.Punycode

def digitChar (digit : Nat) : Char :=
  if digit < 26 then Char.ofNat (97 + digit) else Char.ofNat (22 + digit)

def digitValue? (c : Char) : Option Nat :=
  if 'a' ≤ c ∧ c ≤ 'z' then some (c.toNat - 97)
  else if 'A' ≤ c ∧ c ≤ 'Z' then some (c.toNat - 65)
  else if Text.isDigit c then some (c.toNat - 22)
  else none

def threshold (k bias : Nat) : Nat :=
  if k ≤ bias then 1 else if bias + 26 ≤ k then 26 else k - bias

/-- Divides by 35 while the distance is large. -/
def adaptLoop : Nat → Nat → Nat → Nat
  | 0, k, delta => k + 36 * delta / (delta + 38)
  | fuel + 1, k, delta =>
    if 455 < delta then adaptLoop fuel (k + 36) (delta / 35)
    else k + 36 * delta / (delta + 38)

def adapt (delta count : Nat) (first : Bool) : Nat :=
  let delta := if first then delta / 700 else delta / 2
  let delta := delta + delta / count
  adaptLoop delta 0 delta

def encodeNumber : Nat → Nat → Nat → Nat → List Char
  | 0, _, _, number => [digitChar number]
  | fuel + 1, bias, k, number =>
    let t := threshold k bias
    if number < t then [digitChar number]
    else
      digitChar (t + (number - t) % (36 - t)) ::
        encodeNumber fuel bias (k + 36) ((number - t) / (36 - t))

structure State where
  delta : Nat
  bias : Nat
  handled : Nat
  written : List Char

def encodeValue (basic value : Nat) : List Nat → State → State
  | [], state => { state with delta := state.delta + 1 }
  | n :: rest, state =>
    if n < value then encodeValue basic value rest { state with delta := state.delta + 1 }
    else if n = value then
      encodeValue basic value rest
        { delta := 0
          bias := adapt state.delta (state.handled + 1) (state.handled = basic)
          handled := state.handled + 1
          written := state.written ++ encodeNumber state.delta state.bias 36 state.delta }
    else encodeValue basic value rest state

/-- Handles the values beyond ASCII from the smallest one on; `next` is the first value
that can come. -/
def encodeValues (basic : Nat) (label : List Nat) : Nat → List Nat → State → State
  | _, [], state => state
  | next, value :: values, state =>
    let delta := state.delta + (value - next) * (state.handled + 1)
    encodeValues basic label (value + 1) values
      (encodeValue basic value label { state with delta })

def insertValue (value : Nat) : List Nat → List Nat
  | [] => [value]
  | n :: rest =>
    if value < n then value :: n :: rest
    else if value = n then n :: rest
    else n :: insertValue value rest

def encode (label : List Char) : List Char :=
  let basic := label.filter fun c => c.toNat < 0x80
  let values := (label.filter fun c => 0x80 ≤ c.toNat).foldr (fun c => insertValue c.toNat) []
  let state := encodeValues basic.length (label.map Char.toNat) 0x80 values
    ⟨0, 72, basic.length, []⟩
  basic ++ (if basic.isEmpty then [] else ['-']) ++ state.written

def decodeNumber? (bias : Nat) : Nat → Nat → Nat → List Char → Option (Nat × List Char)
  | _, _, _, [] => none
  | k, weight, value, c :: rest => do
    let digit ← digitValue? c
    let value := value + digit * weight
    let t := threshold k bias
    if digit < t then return (value, rest)
    else decodeNumber? bias (k + 36) (weight * (36 - t)) value rest

def insertAt (index : Nat) (c : Char) (text : List Char) : List Char :=
  text.take index ++ c :: text.drop index

def decodeRest? : Nat → Nat → Nat → Nat → List Char → List Char → Option (List Char)
  | 0, _, _, _, _, _ => none
  | fuel + 1, next, index, bias, label, text =>
    if text.isEmpty then some label
    else do
      let (distance, rest) ← decodeNumber? bias 36 1 0 text
      let count := label.length + 1
      let index' := index + distance
      let value := next + index' / count
      if 0x10FFFF < value ∨ (0xD800 ≤ value ∧ value < 0xE000) then none
      let place := index' % count
      decodeRest? fuel value (place + 1) (adapt distance count (index = 0 ∧ next = 0x80))
        (insertAt place (Char.ofNat value) label) rest

def splitLastHyphen (text : List Char) : List Char × List Char :=
  let behind := (text.reverse.takeWhile (· ≠ '-')).reverse
  if behind.length = text.length then ([], text)
  else (text.take (text.length - behind.length - 1), behind)

def decode? (text : List Char) : Option (List Char) :=
  let (basic, rest) := splitLastHyphen text
  if basic.all fun c => c.toNat < 0x80 then decodeRest? (text.length + 1) 0x80 0 72 basic rest
  else none

end FaultMesh.Punycode
