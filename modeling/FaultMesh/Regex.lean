import FaultMesh.Regex.CharSet

/-!
# Regular expressions

A pattern is matched against the places of a text: from every place of a set it reaches
the places where a match that starts there can end.  Places carry what stands before and
behind them, which is all that an assertion looks at.  Whether a text has a match anywhere
does not depend on which match is preferred, so nothing is said about preference.
-/

set_option autoImplicit false

namespace FaultMesh

/-- The characters on both sides of a place in a text. -/
structure Place where
  before : Option Char
  behind : Option Char
  deriving DecidableEq, Repr

inductive Assertion where
  | start
  | stop
  | lineStart (crlf : Bool)
  | lineStop (crlf : Bool)
  | wordEdge (isWord : Char → Bool)
  | noWordEdge (isWord : Char → Bool)
  | wordStart (isWord : Char → Bool)
  | wordStop (isWord : Char → Bool)
  | wordStartHalf (isWord : Char → Bool)
  | wordStopHalf (isWord : Char → Bool)

inductive Regex where
  | empty
  | one (set : CharSet)
  | assertion (holds : Assertion)
  | sequence (first second : Regex)
  | either (left right : Regex)
  | many (body : Regex)
  | times (count : Nat) (body : Regex)
  | atMost (count : Nat) (body : Regex)

namespace Assertion

def isLineEnd (crlf : Bool) (c : Char) : Bool := c = '\n' || (crlf && c = '\r')

def holdsAt (place : Place) : Assertion → Bool
  | .start => place.before.isNone
  | .stop => place.behind.isNone
  | .lineStart crlf =>
    match place.before with
    | none => true
    | some c => isLineEnd crlf c && !(crlf && c = '\r' && place.behind = some '\n')
  | .lineStop crlf =>
    match place.behind with
    | none => true
    | some c => isLineEnd crlf c && !(crlf && c = '\n' && place.before = some '\r')
  | .wordEdge isWord => place.before.any isWord != place.behind.any isWord
  | .noWordEdge isWord => place.before.any isWord == place.behind.any isWord
  | .wordStart isWord => !place.before.any isWord && place.behind.any isWord
  | .wordStop isWord => place.before.any isWord && !place.behind.any isWord
  | .wordStartHalf isWord => !place.before.any isWord
  | .wordStopHalf isWord => !place.behind.any isWord

end Assertion

namespace Regex

/-- Places of a text, one more than it has characters. -/
def placesFrom : Option Char → List Char → List Place
  | before, [] => [⟨before, none⟩]
  | before, c :: rest => ⟨before, some c⟩ :: placesFrom (some c) rest

def places (text : List Char) : List Place := placesFrom none text

def union (left right : List Bool) : List Bool := List.zipWith or left right

/-- Adds to a set of places what can be reached from it, again and again. -/
def closure (step : List Bool → List Bool) : Nat → List Bool → List Bool
  | 0, reached => reached
  | fuel + 1, reached =>
    let next := union reached (step reached)
    if next = reached then reached else closure step fuel next

def iterate (step : List Bool → List Bool) : Nat → List Bool → List Bool
  | 0, reached => reached
  | count + 1, reached => iterate step count (step reached)

/-- Places that are reached by up to so many steps. -/
def upTo (step : List Bool → List Bool) : Nat → List Bool → List Bool
  | 0, reached => reached
  | count + 1, reached => union reached (upTo step count (step reached))

/-- Places where a match that starts in one of the given places can end. -/
def ends (places : List Place) : Regex → List Bool → List Bool
  | .empty, starts => starts
  | .one set, starts =>
    (false :: List.zipWith (fun here (place : Place) => here && place.behind.any set.contains)
      starts places).take places.length
  | .assertion holds, starts =>
    List.zipWith (fun here place => here && holds.holdsAt place) starts places
  | .sequence first second, starts => second.ends places (first.ends places starts)
  | .either left right, starts => union (left.ends places starts) (right.ends places starts)
  | .many body, starts => closure (body.ends places) places.length starts
  | .times count body, starts => iterate (body.ends places) count starts
  | .atMost count body, starts => upTo (body.ends places) count starts

def isMatch (regex : Regex) (text : List Char) : Bool :=
  let places := places text
  (regex.ends places (places.map fun _ => true)).any id

def repeated (body : Regex) (low : Nat) : Option Nat → Regex
  | none => .sequence (.times low body) (.many body)
  | some high => .sequence (.times low body) (.atMost (high - low) body)

/-- About how many octets an automaton takes in which every repetition is written out. -/
def size : Regex → Nat
  | .empty => CharSet.stateSize
  | .one set => set.size
  | .assertion _ => CharSet.stateSize
  | .sequence first second => first.size + second.size
  | .either left right => left.size + right.size + CharSet.stateSize
  | .many body => body.size + CharSet.stateSize
  | .times count body => count * body.size
  | .atMost count body => count * (body.size + CharSet.stateSize)

def sequences (parts : List Regex) : Regex := parts.foldr .sequence .empty

def eithers : List Regex → Regex
  | [] => .empty
  | [part] => part
  | part :: parts => .either part (eithers parts)

end Regex

end FaultMesh
