import FaultMesh.Datum
import FaultMesh.Decimal.Scaled
import FaultMesh.Json.Problem
import FaultMesh.Text.Blank
import FaultMesh.Text.Utf8

/-!
# Lexemes of JSON

Numbers and strings as they are written.  Either may be read or only passed over, and
passing over is the more lenient of the two: it looks neither at the size of a number nor
at surrogates and stray octets in a string.  So a lexeme that breaks off carries both
problems, and a string that can be passed over carries the outcome of reading it.

A string is scanned one glyph at a time with a phase that says what an escape still
waits for.
-/

set_option autoImplicit false

namespace FaultMesh.Json

open FaultMesh.Text (Glyph)

structure Break where
  reading : Problem
  passing : Problem
  deriving DecidableEq, Repr

def Break.at (kind : Problem.Kind) (offset : Nat) : Break :=
  ⟨⟨kind, offset⟩, ⟨kind, offset⟩⟩

def peekOffset (offset : Nat) (glyphs : List Glyph) : Nat :=
  if glyphs.isEmpty then offset else offset + 1

def isSpace (glyph : Glyph) : Bool :=
  glyph = .scalar ' ' || glyph = .scalar '\n' || glyph = .scalar '\t' || glyph = .scalar '\r'

/-- Drops white space, which is four characters of one octet each. -/
def skipSpace (offset : Nat) : List Glyph → Nat × List Glyph
  | [] => (offset, [])
  | glyph :: rest =>
    if isSpace glyph then skipSpace (offset + 1) rest else (offset, glyph :: rest)

/-! ## Numbers -/

/-- A number as written: its digits before and behind the point, its exponent, whether it
has neither a fraction nor an exponent, and how many digits follow the one at which the
exponent is too large to matter. -/
structure Numeral where
  negative : Bool
  whole : List Char
  places : List Char
  power : Int
  integral : Bool
  surplus : Nat
  deriving DecidableEq, Repr

/-- Takes digits into a number for as long as 64 bits hold it, and leaves the others. -/
def takeSignificand (value : Nat) : List Char → Nat × List Char
  | [] => (value, [])
  | digit :: rest =>
    let next := value * 10 + Text.decimalValue [digit]
    if next < Nat.pow 2 64 then takeSignificand next rest else (value, digit :: rest)

namespace Numeral

def magnitude (numeral : Numeral) : Nat := Text.decimalValue numeral.whole

/-- The digits that count as one whole number, and the power of ten that it is scaled by.
Digits before the point that do not fit still count as places, those behind it do not. -/
def scaling (numeral : Numeral) : Nat × Int :=
  let (upper, beyond) := takeSignificand 0 numeral.whole
  let (significand, dropped) := takeSignificand upper numeral.places
  (significand, numeral.power + beyond.length - (numeral.places.length - dropped.length))

def real? (numeral : Numeral) : Option Binary64 :=
  Binary64.scaled? numeral.negative numeral.scaling.1 numeral.scaling.2

/-- A whole number of 64 bits stays whole; everything else, minus zero too, is a double,
unless that is infinite. -/
def number? (numeral : Numeral) : Option Number :=
  let real := numeral.real?.map Number.real
  if numeral.integral then
    if numeral.negative then
      if numeral.magnitude = 0 then real
      else (Number.ofInt? (-(numeral.magnitude : Int))).or real
    else (Number.ofNat? numeral.magnitude).or real
  else real

end Numeral

def takeDigits : List Glyph → List Char × List Glyph
  | [] => ([], [])
  | .stray width :: rest => ([], .stray width :: rest)
  | .scalar c :: rest =>
    if Text.isDigit c then
      let (digits, rest) := takeDigits rest
      (c :: digits, rest)
    else ([], .scalar c :: rest)

inductive Scan (α : Type) where
  | done (value : α) (offset : Nat) (rest : List Glyph)
  | stuck (reason : Break)

/-- A digit is wanted: the end of the text is told apart only when reading. -/
def digitWanted (offset : Nat) (glyphs : List Glyph) : Break :=
  if glyphs.isEmpty then ⟨⟨.endInValue, offset⟩, ⟨.invalidNumber, offset⟩⟩
  else .at .invalidNumber (offset + 1)

/-- The largest exponent of which every digit is looked at. -/
def exponentLimit : Nat := 2147483647

/-- Digits behind the one at which the exponent, of which `power` is read, exceeds its limit. -/
def surplusDigits (power : Nat) : List Char → Nat
  | [] => 0
  | digit :: rest =>
    let power := power * 10 + Text.decimalValue [digit]
    if exponentLimit < power then rest.length else surplusDigits power rest

def scanExponent (negative : Bool) (whole places : List Char) (offset : Nat)
    (glyphs : List Glyph) : Scan Numeral :=
  let plain : Scan Numeral :=
    .done ⟨negative, whole, places, 0, places.isEmpty, 0⟩ offset glyphs
  match glyphs with
  | .scalar c :: rest =>
    if c = 'e' ∨ c = 'E' then
      let (below, offset, rest) :=
        match rest with
        | .scalar '+' :: rest => (false, offset + 2, rest)
        | .scalar '-' :: rest => (true, offset + 2, rest)
        | _ => (false, offset + 1, rest)
      let (digits, rest) := takeDigits rest
      if digits.isEmpty then .stuck (digitWanted offset rest)
      else
        let size : Int := Text.decimalValue digits
        let power := if below then -size else size
        .done ⟨negative, whole, places, power, false, surplusDigits 0 digits⟩
          (offset + digits.length) rest
    else plain
  | _ => plain

def scanFraction (negative : Bool) (whole : List Char) (offset : Nat) (glyphs : List Glyph) :
    Scan Numeral :=
  match glyphs with
  | .scalar '.' :: rest =>
    let (places, rest) := takeDigits rest
    if places.isEmpty then .stuck (digitWanted (offset + 1) rest)
    else scanExponent negative whole places (offset + 1 + places.length) rest
  | _ => scanExponent negative whole [] offset glyphs

/-- A number that begins here.  A zero that begins it is its only digit before the point. -/
def scanNumber (offset : Nat) (glyphs : List Glyph) : Scan Numeral :=
  let (negative, offset, glyphs) :=
    match glyphs with
    | .scalar '-' :: rest => (true, offset + 1, rest)
    | _ => (false, offset, glyphs)
  match takeDigits glyphs with
  | ([], rest) => .stuck (digitWanted offset rest)
  | ('0' :: _ :: _, _) => .stuck (.at .invalidNumber (offset + 2))
  | (whole, rest) => scanFraction negative whole (offset + whole.length) rest

/-! ## Strings -/

/-- What an escape in a string still waits for.  `lead` is a leading surrogate whose
trailing one has to come next. -/
inductive Phase where
  | plain (lead : Option Nat)
  | escape (lead : Option Nat)
  | hex (lead : Option Nat) (left value start : Nat)
  deriving DecidableEq, Repr

/-- Characters read so far, the last one first, or the problem that ended the reading. -/
abbrev Reading := Except Problem (List Char)

namespace Reading

def fail (reading : Reading) (kind : Problem.Kind) (offset : Nat) : Reading :=
  match reading with
  | .error problem => .error problem
  | .ok _ => .error ⟨kind, offset⟩

def push (reading : Reading) (c : Char) : Reading :=
  reading.map (c :: ·)

/-- Ends a run of plain characters: a stray octet in it shows only now. -/
def settle (reading : Reading) : Option Nat → Reading
  | none => reading
  | some offset => reading.fail .invalidCodePoint offset

def stuck (reading : Reading) (kind : Problem.Kind) (offset : Nat) : Break :=
  match reading with
  | .error problem => ⟨problem, ⟨kind, offset⟩⟩
  | .ok _ => .at kind offset

end Reading

def hasWidth : Nat → List Glyph → Bool
  | 0, _ => true
  | _ + 1, [] => false
  | count + 1, glyph :: rest => hasWidth (count + 1 - glyph.width) rest

def totalWidth (glyphs : List Glyph) : Nat :=
  glyphs.foldl (fun total glyph => total + glyph.width) 0

def simpleEscape? (c : Char) : Option Char :=
  match c with
  | '"' => some '"'
  | '\\' => some '\\'
  | '/' => some '/'
  | 'b' => some '\x08'
  | 'f' => some '\x0c'
  | 'n' => some '\n'
  | 'r' => some '\r'
  | 't' => some '\t'
  | _ => none

def isLead (value : Nat) : Bool := 0xD800 ≤ value && value ≤ 0xDBFF

def isTrail (value : Nat) : Bool := 0xDC00 ≤ value && value ≤ 0xDFFF

def pairValue (lead trail : Nat) : Char :=
  Char.ofNat ((lead - 0xD800) * 0x400 + (trail - 0xDC00) + 0x10000)

def acceptUnit (reading : Reading) (lead : Option Nat) (value offset : Nat) :
    Reading × Option Nat :=
  match lead with
  | some high =>
    if isTrail value then (reading.push (pairValue high value), none)
    else (reading.fail .loneSurrogate offset, none)
  | none =>
    if isLead value then (reading, some value)
    else if isTrail value then (reading.fail .loneSurrogate offset, none)
    else (reading.push (Char.ofNat value), none)

def checkLead (reading : Reading) (lead : Option Nat) (offset : Nat) : Reading :=
  match lead with
  | none => reading
  | some _ => reading.fail .unfinishedSurrogate offset

def scanString (offset : Nat) (phase : Phase) (reading : Reading) (stray : Option Nat) :
    List Glyph → Scan (Except Problem String)
  | [] => .stuck (reading.stuck .endInString offset)
  | glyph :: rest =>
    match phase with
    | .plain lead =>
      match glyph with
      | .scalar '"' =>
        let reading := checkLead (reading.settle stray) lead (offset + 1)
        .done (reading.map fun chars => String.ofList chars.reverse) (offset + 1) rest
      | .scalar '\\' => scanString (offset + 1) (.escape lead) (reading.settle stray) none rest
      | .scalar c =>
        let reading := checkLead reading lead (offset + 1)
        if c.toNat < 0x20 then .stuck (reading.stuck .controlCharacter (offset + 1))
        else scanString (offset + c.utf8Size) (.plain none) (reading.push c) stray rest
      | .stray width =>
        scanString (offset + width) (.plain none) (checkLead reading lead (offset + 1))
          (stray.or (some (offset + 1))) rest
    | .escape lead =>
      match glyph with
      | .scalar 'u' =>
        if hasWidth 4 rest then
          scanString (offset + 1) (.hex lead 4 0 (offset + 1)) reading none rest
        else .stuck (reading.stuck .endInString (offset + 1 + totalWidth rest))
      | .scalar c =>
        let reading := checkLead reading lead (offset + 1)
        match simpleEscape? c with
        | some value => scanString (offset + 1) (.plain none) (reading.push value) none rest
        | none => .stuck (reading.stuck .invalidEscape (offset + 1))
      | .stray _ =>
        .stuck ((checkLead reading lead (offset + 1)).stuck .invalidEscape (offset + 1))
    | .hex lead left value start =>
      let digit :=
        match glyph with
        | .scalar c => Text.digitValue? c
        | .stray _ => none
      match digit with
      | none => .stuck (reading.stuck .invalidEscape (start + 4))
      | some digit =>
        let value := value * 16 + digit
        if left ≤ 1 then
          let (reading, lead) := acceptUnit reading lead value (offset + 1)
          scanString (offset + 1) (.plain lead) reading none rest
        else scanString (offset + 1) (.hex lead (left - 1) value start) reading none rest

end FaultMesh.Json
