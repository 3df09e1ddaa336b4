import FaultMesh.Text.Blank
import FaultMesh.Text.Cut

/-!
# Stack traces

The text of a stack and whether it is known yet.  The text of a captured stack becomes
known when something asks for it; until then it takes no part in what is sent.  A text
that came from another service is known from the start, and is kept as it came.

Of a captured text with more than nine frames the three innermost and the six outermost
ones are dropped: they belong to the making of the fault and to the start of the program.
-/

set_option autoImplicit false

namespace FaultMesh

namespace StackTrace

def minTrimmedFrames : Nat := 9
def innerFrames : Nat := 3
def outerFrames : Nat := 6

/-- A line of the form `index: symbol`, which starts a frame. -/
def isFrameHeader (line : List Char) : Bool :=
  match Text.splitOnce? ':' (Text.trimStart line) with
  | some (index, _) => !index.isEmpty && index.all Text.isDigit
  | none => false

/-- Lines grouped to frames: a frame goes from a header, or from the first line, to the
next header. -/
def frames : List (List Char) → List (List (List Char))
  | [] => []
  | [line] => [[line]]
  | line :: next :: rest =>
    match frames (next :: rest) with
    | frame :: others =>
      if isFrameHeader next then [line] :: frame :: others else (line :: frame) :: others
    | [] => [[line]]

def keptFrames (all : List (List (List Char))) : List (List (List Char)) :=
  if minTrimmedFrames < all.length then
    (all.take (all.length - outerFrames)).drop innerFrames
  else all

def trimFramesChars (text : List Char) : List Char :=
  List.intercalate ['\n'] ((keptFrames (frames (Text.lines text))).map (List.intercalate ['\n']))

def trimFrames (text : String) : String :=
  String.ofList (trimFramesChars text.toList)

end StackTrace

structure StackTrace where
  text : String
  known : Bool
  deriving DecidableEq, Repr

namespace StackTrace

def empty : StackTrace := ⟨"", false⟩

instance : Inhabited StackTrace := ⟨empty⟩

def captured (backtrace : String) : StackTrace := ⟨trimFrames backtrace, false⟩

/-- The text that another service sent. -/
def remote (text : String) : StackTrace := ⟨text, true⟩

def force (stack : StackTrace) : StackTrace := { stack with known := true }

/-- The text, if it is known and there is any. -/
def rendered? (stack : StackTrace) : Option String :=
  if stack.known ∧ stack.text ≠ "" then some stack.text else none

end StackTrace

end FaultMesh
