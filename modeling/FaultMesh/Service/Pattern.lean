import FaultMesh.Text.Blank
import FaultMesh.Text.Cut

/-!
# Patterns of paths

A pattern is text with parameters in it.  A parameter takes up a segment, or what is left
of one, and is never empty; the last parameter may take up all the rest of a path.  Where
several patterns take a path, text goes before a parameter, and a parameter before one
that takes the rest.
-/

set_option autoImplicit false

namespace FaultMesh

inductive PathPattern.Part where
  | text (c : Char)
  | parameter (name : String)
  | rest (name : String)
  deriving DecidableEq, Repr

structure PathPattern where
  parts : List PathPattern.Part
  deriving DecidableEq, Repr

namespace PathPattern

/-- The parameter of a name between braces; an asterisk marks one that takes the rest. -/
def parameterPart : List Char → Part
  | '*' :: name => .rest (String.ofList name)
  | name => .parameter (String.ofList name)

/-- Parts of a written pattern.  A brace that is written twice stands for itself. -/
def partsFrom : Option (List Char) → List Char → List Part
  | none, '\x7b' :: '\x7b' :: text => .text '\x7b' :: partsFrom none text
  | none, '\x7d' :: '\x7d' :: text => .text '\x7d' :: partsFrom none text
  | none, '\x7b' :: text => partsFrom (some []) text
  | none, c :: text => .text c :: partsFrom none text
  | none, [] => []
  | some name, '\x7d' :: text => parameterPart name.reverse :: partsFrom none text
  | some name, c :: text => partsFrom (some (c :: name)) text
  | some name, [] => .text '\x7b' :: name.reverse.map .text

def ofString (text : String) : PathPattern := ⟨partsFrom none text.toList⟩

def matchParts? : List Part → List Char → Option (List (String × List Char))
  | [], [] => some []
  | [], _ :: _ => none
  | .text _ :: _, [] => none
  | .text c :: parts, d :: path => if c = d then matchParts? parts path else none
  | .parameter name :: parts, path =>
    let value := Text.before '/' path
    if value.isEmpty then none
    else (matchParts? parts (path.drop value.length)).map ((name, value) :: ·)
  | .rest name :: _, path => if path.isEmpty then none else some [(name, path)]

def match? (pattern : PathPattern) (path : String) : Option (List (String × List Char)) :=
  matchParts? pattern.parts path.toList

def Part.rank : Part → Nat
  | .text _ => 0
  | .parameter _ => 1
  | .rest _ => 2

/-- Whether parts go before others that take the same path. -/
def precedesParts : List Part → List Part → Bool
  | a :: left, b :: right => if a.rank = b.rank then precedesParts left right else a.rank < b.rank
  | _, _ => false

def precedes (left right : PathPattern) : Bool := precedesParts left.parts right.parts

/-- The pattern that goes before all others of a list. -/
def foremost? : List PathPattern → Option PathPattern
  | [] => none
  | pattern :: others =>
    match foremost? others with
    | none => some pattern
    | some other => if other.precedes pattern then some other else some pattern

end PathPattern

end FaultMesh
