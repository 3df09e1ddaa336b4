import FaultMesh.Json.Visitor
import FaultMesh.Json.Writer

/-!
# JSON values

The values of JSON documents for readers that want nothing more of them, and the data that is
made of such values.
-/

set_option autoImplicit false

namespace FaultMesh.Json

/-- Any JSON value; an object keeps the order in which its keys were first written. -/
inductive Value where
  | null
  | boolean (value : Bool)
  | number (value : Number)
  | text (content : String)
  | list (items : List Value)
  | object (members : List (String × Value))
  deriving Inhabited

namespace Value

def visitor : Visitor Value where
  null := .null
  boolean := .boolean
  number := .number
  text := .text
  list := .list
  object written := .object (Entries.ofList written)

mutual

/-- Compact JSON text of a value. -/
def write : Value → List Char
  | .null => ['n', 'u', 'l', 'l']
  | .boolean true => ['t', 'r', 'u', 'e']
  | .boolean false => ['f', 'a', 'l', 's', 'e']
  | .number value => value.render
  | .text content => writeString content
  | .list items => enclose '[' ']' (writeItems items)
  | .object members => enclose '\x7b' '\x7d' (writeMembers members)

def writeItems : List Value → List (List Char)
  | [] => []
  | item :: items => item.write :: writeItems items

def writeMembers : List (String × Value) → List (List Char)
  | [] => []
  | (key, value) :: members => writeMember key value.write :: writeMembers members

end

end Value

def readValue (octets : List UInt8) : Except Problem Value :=
  visitText Value.visitor octets

end FaultMesh.Json

namespace FaultMesh.Datum

mutual

def ofValue : Json.Value → Datum
  | .null => .null
  | .boolean value => .boolean value
  | .number value => .number value
  | .text content => .text content
  | .list items => .list (ofValues items)
  | .object members => .map (Entries.ofList (ofMembers members))

def ofValues : List Json.Value → List Datum
  | [] => []
  | item :: items => ofValue item :: ofValues items

def ofMembers : List (String × Json.Value) → List (String × Datum)
  | [] => []
  | (key, value) :: members => (key, ofValue value) :: ofMembers members

end

end FaultMesh.Datum
