import FaultMesh.Json.Visitor

/-!
# Values that are kept

A datum has six shapes, and nothing in a document says which one is meant.  So what stands
there is kept as it was written, and the shapes are tried on it one after another; the parts
of a list or a map are tried in the same way.
-/

set_option autoImplicit false

namespace FaultMesh.Json

/-- What stood in a document, with every member of its objects. -/
inductive Kept where
  | null
  | boolean (value : Bool)
  | number (value : Number)
  | text (content : String)
  | list (items : List Kept)
  | object (members : List (String × Kept))
  deriving Inhabited

namespace Kept

def visitor : Visitor Kept where
  null := .null
  boolean := .boolean
  number := .number
  text := .text
  list := .list
  object := .object

def null? : Kept → Option Datum
  | .null => some .null
  | _ => none

def boolean? : Kept → Option Datum
  | .boolean value => some (.boolean value)
  | _ => none

def number? : Kept → Option Datum
  | .number value => some (.number value)
  | _ => none

def text? : Kept → Option Datum
  | .text content => some (.text content)
  | _ => none

end Kept

end FaultMesh.Json

namespace FaultMesh.Datum

open FaultMesh.Json (Kept)

mutual

/-- The first shape that fits what was kept. -/
def ofKept? (kept : Kept) : Option Datum :=
  kept.null? <|> kept.boolean? <|> kept.number? <|> kept.text? <|>
    (match kept with
    | .list items => (ofKeptItems? items).map .list
    | _ => none) <|>
    match kept with
    | .object members => (ofKeptMembers? members).map fun written => .map (Entries.ofList written)
    | _ => none

def ofKeptItems? : List Kept → Option (List Datum)
  | [] => some []
  | item :: items => do
    let first ← ofKept? item
    let others ← ofKeptItems? items
    return first :: others

def ofKeptMembers? : List (String × Kept) → Option (List (String × Datum))
  | [] => some []
  | (key, value) :: members => do
    let first ← ofKept? value
    let others ← ofKeptMembers? members
    return (key, first) :: others

end

end FaultMesh.Datum

namespace FaultMesh.Json

def Node.datumInTurn (depth : Nat) (node : Node) : Except Problem Datum := do
  let kept ← node.visit Kept.visitor depth
  match Datum.ofKept? kept with
  | some datum => return datum
  | none => .error (mismatchAt (.refused "data did not match any variant of untagged enum Datum") 0)

def readInTurn (octets : List UInt8) : Except Problem Datum :=
  (parse octets).read (Node.datumInTurn depthLimit)

end FaultMesh.Json
