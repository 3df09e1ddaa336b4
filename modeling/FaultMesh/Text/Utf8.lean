/-!
# UTF-8

Octets are read as glyphs: a scalar value, or a stray run of octets that begins no
character or breaks off inside one.  A stray run is the longest prefix of a character
that is there, so that each run stands for one replacement character when a text is
read with losses, and its width keeps the octet positions of what follows.
-/

set_option autoImplicit false

namespace FaultMesh.Text

inductive Glyph where
  | scalar (value : Char)
  | stray (width : Nat)
  deriving DecidableEq, Repr, Inhabited

def Glyph.width : Glyph → Nat
  | .scalar value => value.utf8Size
  | .stray width => width

namespace Utf8

/-- A character of which some octets have been read: how many are still owed, the range
that the next one must be in, the value so far and the octets so far. -/
structure Pending where
  owed : Nat
  low : UInt8
  high : UInt8
  value : Nat
  width : Nat

/-- What a first octet begins, or the glyph that it already is. -/
def lead (b : UInt8) : Glyph ⊕ Pending :=
  if b < 0x80 then .inl (.scalar (Char.ofNat b.toNat))
  else if b < 0xC2 then .inl (.stray 1)
  else if b < 0xE0 then .inr ⟨1, 0x80, 0xBF, b.toNat - 0xC0, 1⟩
  else if b = 0xE0 then .inr ⟨2, 0xA0, 0xBF, 0, 1⟩
  else if b = 0xED then .inr ⟨2, 0x80, 0x9F, 0xD, 1⟩
  else if b < 0xF0 then .inr ⟨2, 0x80, 0xBF, b.toNat - 0xE0, 1⟩
  else if b = 0xF0 then .inr ⟨3, 0x90, 0xBF, 0, 1⟩
  else if b < 0xF4 then .inr ⟨3, 0x80, 0xBF, b.toNat - 0xF0, 1⟩
  else if b = 0xF4 then .inr ⟨3, 0x80, 0x8F, 4, 1⟩
  else .inl (.stray 1)

/-- Glyphs of the octets that follow a character which may be pending. -/
def glyphsFrom : Option Pending → List UInt8 → List Glyph
  | none, [] => []
  | some pending, [] => [.stray pending.width]
  | none, b :: rest =>
    match lead b with
    | .inl glyph => glyph :: glyphsFrom none rest
    | .inr pending => glyphsFrom (some pending) rest
  | some pending, b :: rest =>
    if pending.low ≤ b ∧ b ≤ pending.high then
      let value := pending.value * 64 + (b.toNat - 0x80)
      if pending.owed ≤ 1 then .scalar (Char.ofNat value) :: glyphsFrom none rest
      else glyphsFrom (some ⟨pending.owed - 1, 0x80, 0xBF, value, pending.width + 1⟩) rest
    else
      .stray pending.width ::
        match lead b with
        | .inl glyph => glyph :: glyphsFrom none rest
        | .inr next => glyphsFrom (some next) rest

def glyphs (octets : List UInt8) : List Glyph :=
  glyphsFrom none octets

def encode (text : List Char) : List UInt8 :=
  text.flatMap String.utf8EncodeChar

def encodeString (text : String) : List UInt8 :=
  encode text.toList

def scalars? : List Glyph → Option (List Char)
  | [] => some []
  | .scalar value :: rest => (scalars? rest).map (value :: ·)
  | .stray _ :: _ => none

def decode? (octets : List UInt8) : Option String :=
  (scalars? (glyphs octets)).map String.ofList

/-- Text of any octets: each stray run becomes one replacement character. -/
def decodeLossy (octets : List UInt8) : String :=
  String.ofList <| (glyphs octets).map fun
    | .scalar value => value
    | .stray _ => '\uFFFD'

end Utf8

end FaultMesh.Text
