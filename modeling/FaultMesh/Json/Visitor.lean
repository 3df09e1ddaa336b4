import FaultMesh.Json.Reader

/-!
# Visitors

Reading any value in one way and making different things of it.  A visitor says what is made
of each part: it gets the items of a list and the members of an object in their order, and a
member that is repeated as often as it stands there.
-/

set_option autoImplicit false

namespace FaultMesh.Json

structure Visitor (α : Type) where
  null : α
  boolean : Bool → α
  number : Number → α
  text : String → α
  list : List α → α
  object : List (String × α) → α

variable {α : Type}

mutual

/-- What a visitor makes of a node; `depth` lists and objects may still be entered. -/
def Node.visit (visitor : Visitor α) : Nat → Node → Except Problem α
  | _, .scalar .null _ => .ok visitor.null
  | _, .scalar (.boolean value) _ => .ok (visitor.boolean value)
  | _, .scalar (.number numeral) stop => (readNumber numeral stop).map visitor.number
  | _, .scalar (.text content) _ => content.map visitor.text
  | _, .broken reason => throwBreak reason
  | 0, .list start _ _ => .error ⟨.tooDeep, start + 1⟩
  | 0, .object start _ _ => .error ⟨.tooDeep, start + 1⟩
  | depth + 1, .list _ items reason => do
    let made ← visitItems visitor depth items
    close reason
    return visitor.list made
  | depth + 1, .object _ members reason => do
    let made ← visitMembers visitor depth members
    close reason
    return visitor.object made

def visitItems (visitor : Visitor α) : Nat → List Node → Except Problem (List α)
  | _, [] => .ok []
  | depth, item :: items => do
    let first ← item.visit visitor depth
    let others ← visitItems visitor depth items
    return first :: others

def visitMembers (visitor : Visitor α) : Nat → List (Except Problem String × Node) →
    Except Problem (List (String × α))
  | _, [] => .ok []
  | depth, (key, value) :: members => do
    let key ← key
    let first ← value.visit visitor depth
    let others ← visitMembers visitor depth members
    return (key, first) :: others

end

def visitText (visitor : Visitor α) (octets : List UInt8) : Except Problem α :=
  (parse octets).read (Node.visit visitor depthLimit)

end FaultMesh.Json
