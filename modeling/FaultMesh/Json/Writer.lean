import FaultMesh.Datum

/-!
# Writing JSON

Compact JSON text.  A string escapes the quote, the backslash and the characters below
the space, five of them by a letter; everything else is written as it is.
-/

set_option autoImplicit false

namespace FaultMesh.Json

def hexDigit (n : Nat) : Char :=
  if n < 10 then Char.ofNat (48 + n) else Char.ofNat (87 + n)

def escapeChar (c : Char) : List Char :=
  if c = '"' then ['\\', '"']
  else if c = '\\' then ['\\', '\\']
  else if c.toNat < 0x20 then
    if c = '\x08' then ['\\', 'b']
    else if c = '\t' then ['\\', 't']
    else if c = '\n' then ['\\', 'n']
    else if c = '\x0c' then ['\\', 'f']
    else if c = '\r' then ['\\', 'r']
    else ['\\', 'u', '0', '0', hexDigit (c.toNat / 16), hexDigit (c.toNat % 16)]
  else [c]

def writeString (text : String) : List Char :=
  '"' :: (text.toList.flatMap escapeChar ++ ['"'])

/-- Puts written values between brackets, with commas between them. -/
def enclose (opening closing : Char) (parts : List (List Char)) : List Char :=
  opening :: ((List.intersperse [','] parts).flatten ++ [closing])

def writeMember (key : String) (value : List Char) : List Char :=
  writeString key ++ ':' :: value

mutual

def write : Datum → List Char
  | .null => ['n', 'u', 'l', 'l']
  | .boolean true => ['t', 'r', 'u', 'e']
  | .boolean false => ['f', 'a', 'l', 's', 'e']
  | .number value => value.render
  | .text value => writeString value
  | .list items => enclose '[' ']' (writeItems items)
  | .map entries => enclose '\x7b' '\x7d' (writeEntries entries)

def writeItems : List Datum → List (List Char)
  | [] => []
  | item :: items => write item :: writeItems items

def writeEntries : List (String × Datum) → List (List Char)
  | [] => []
  | (key, value) :: entries => writeMember key (write value) :: writeEntries entries

end

def render (value : Datum) : String := String.ofList (write value)

end FaultMesh.Json

namespace FaultMesh

namespace Datum

/-- Text that stands for a value in a message: nothing for null, strings bare, lists and
maps as JSON. -/
def shown : Datum → String
  | .null => ""
  | .boolean value => toString value
  | .number value => String.ofList value.render
  | .text value => value
  | .list items => Json.render (.list items)
  | .map entries => Json.render (.map entries)

end Datum

end FaultMesh
