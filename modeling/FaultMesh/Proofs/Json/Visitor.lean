import FaultMesh.Json.Visitor
import FaultMesh.Proofs.OrderedMap

/-!
# Visitors of the same documents

Two visitors meet the same parts in the same order and fail at the same problem.  So where a
function takes what the first makes of each part to what the second makes of it, it takes what
the first makes of any document to what the second makes of it.
-/

set_option autoImplicit false

namespace FaultMesh.Json

namespace Visitor

variable {α β : Type}

structure Turns (change : α → β) (first : Visitor α) (second : Visitor β) : Prop where
  null : change first.null = second.null
  boolean (value : Bool) : change (first.boolean value) = second.boolean value
  number (value : Number) : change (first.number value) = second.number value
  text (content : String) : change (first.text content) = second.text content
  list (items : List α) : change (first.list items) = second.list (items.map change)
  object (members : List (String × α)) :
    change (first.object members) =
      second.object (members.map fun (key, value) => (key, change value))

namespace Turns

variable {change : α → β} {first : Visitor α} {second : Visitor β}

mutual

theorem visit (turns : Turns change first second) : ∀ (node : Node) (depth : Nat),
    node.visit second depth = (node.visit first depth).map change
  | .scalar .null _, _ => by
    rw [Node.visit, Node.visit, Except.map, turns.null]
  | .scalar (.boolean value) _, _ => by
    rw [Node.visit, Node.visit, Except.map, turns.boolean]
  | .scalar (.number numeral) stop, _ => by
    rw [Node.visit, Node.visit]
    cases readNumber numeral stop with
    | error problem => rfl
    | ok number => exact congrArg Except.ok (turns.number number).symm
  | .scalar (.text content) _, _ => by
    rw [Node.visit, Node.visit]
    cases content with
    | error problem => rfl
    | ok content => exact congrArg Except.ok (turns.text content).symm
  | .broken _, _ => by
    rw [Node.visit, Node.visit]
    rfl
  | .list _ _ _, 0 => by
    rw [Node.visit, Node.visit]
    rfl
  | .object _ _ _, 0 => by
    rw [Node.visit, Node.visit]
    rfl
  | .list _ items reason, depth + 1 => by
    rw [Node.visit, Node.visit, turns.visitItems items depth]
    -- Both stop at the same problem, in an item or behind the last one.
    cases Json.visitItems first depth items with
    | error problem => rfl
    | ok made =>
      cases close reason with
      | error problem => rfl
      | ok ended => exact congrArg Except.ok (turns.list made).symm
  | .object _ members reason, depth + 1 => by
    rw [Node.visit, Node.visit, turns.visitMembers members depth]
    cases Json.visitMembers first depth members with
    | error problem => rfl
    | ok made =>
      cases close reason with
      | error problem => rfl
      | ok ended => exact congrArg Except.ok (turns.object made).symm

theorem visitItems (turns : Turns change first second) : ∀ (items : List Node) (depth : Nat),
    Json.visitItems second depth items =
      (Json.visitItems first depth items).map fun made => made.map change
  | [], _ => rfl
  | item :: items, depth => by
    rw [Json.visitItems, Json.visitItems, turns.visit item depth, turns.visitItems items depth]
    cases item.visit first depth with
    | error problem => rfl
    | ok here =>
      cases Json.visitItems first depth items with
      | error problem => rfl
      | ok others => rfl

theorem visitMembers (turns : Turns change first second) :
    ∀ (members : List (Except Problem String × Node)) (depth : Nat),
      Json.visitMembers second depth members =
        (Json.visitMembers first depth members).map fun made =>
          made.map fun (key, value) => (key, change value)
  | [], _ => rfl
  | (key, node) :: members, depth => by
    rw [Json.visitMembers, Json.visitMembers, turns.visit node depth,
      turns.visitMembers members depth]
    cases key with
    | error problem => rfl
    | ok key =>
      cases node.visit first depth with
      | error problem => rfl
      | ok here =>
        cases Json.visitMembers first depth members with
        | error problem => rfl
        | ok others => rfl

end

theorem visitText (turns : Turns change first second) (octets : List UInt8) :
    Json.visitText second octets = (Json.visitText first octets).map change := by
  rw [Json.visitText, Json.visitText, Document.read, Document.read, turns.visit]
  cases (parse octets).root.visit first depthLimit with
  | error problem => rfl
  | ok made =>
    simp only [Except.map, bind, Except.bind]
    cases (parse octets).excess with
    | none => rfl
    | some problem => rfl

end Turns

end Visitor

end FaultMesh.Json
