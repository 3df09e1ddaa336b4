import FaultMesh.Json.Writer
import FaultMesh.Text.Blank
import FaultMesh.Text.Cut

/-!
# Message templates

A template is literal text interleaved with actions between double braces.  The only
action is the look-up of a path below `.Data`.  Each opening pair of braces goes with the
nearest closing pair; a template is refused for the first action that is no look-up, or
else for an opening pair that nothing closes.

Rendering never fails: what a path does not reach renders as nothing, and text that was
substituted is not looked at again.
-/

set_option autoImplicit false

namespace FaultMesh

inductive TemplateError where
  | unterminated (template : String)
  | unsupportedAction (action : String)
  deriving DecidableEq, Repr

def TemplateError.message : TemplateError → String
  | .unterminated template => "unterminated action in template: " ++ template
  | .unsupportedAction action =>
    "unsupported template action '\x7b\x7b" ++ action ++
      "\x7d\x7d', only '.Data.<Key>' lookups are allowed"

namespace Template

/-- A stretch of template text; `opened` is an action that nothing closes. -/
inductive Piece where
  | literal (text : List Char)
  | action (text : List Char)
  | opened (text : List Char)
  deriving DecidableEq, Repr

/-- Pieces of the rest of a template, within an action or outside of one, where `taken`
is the reversed beginning of the current piece. -/
def piecesFrom : Bool → List Char → List Char → List Piece
  | false, taken, '\x7b' :: '\x7b' :: rest => .literal taken.reverse :: piecesFrom true [] rest
  | true, taken, '\x7d' :: '\x7d' :: rest => .action taken.reverse :: piecesFrom false [] rest
  | inside, taken, c :: rest => piecesFrom inside (c :: taken) rest
  | false, taken, [] => [.literal taken.reverse]
  | true, taken, [] => [.opened taken.reverse]

def pieces (source : List Char) : List Piece :=
  piecesFrom false [] source

inductive Segment where
  | literal (text : String)
  | field (path : List String)
  deriving DecidableEq, Repr

def isNameStart (c : Char) : Bool := Text.isLetter c || c = '_'

def isNameChar (c : Char) : Bool := Text.isAlphanumeric c || c = '_'

def isName : List Char → Bool
  | [] => false
  | c :: rest => isNameStart c && rest.all isNameChar

/-- Path of a look-up action, without the root. -/
def lookupPath? (action : List Char) : Option (List String) :=
  match Text.trim action with
  | '.' :: 'D' :: 'a' :: 't' :: 'a' :: rest =>
    match List.splitOn '.' rest with
    | [] :: name :: names =>
      if (name :: names).all isName then some ((name :: names).map String.ofList) else none
    | _ => none
  | _ => none

/-- Segments of pieces; an empty literal has none. -/
def assemble (source : String) : List Piece → Except TemplateError (List Segment)
  | [] => .ok []
  | .literal text :: rest => do
    let rest ← assemble source rest
    return if text.isEmpty then rest else .literal (String.ofList text) :: rest
  | .action action :: rest =>
    match lookupPath? action with
    | none => .error (.unsupportedAction (String.ofList (Text.trim action)))
    | some path => do
      let rest ← assemble source rest
      return .field path :: rest
  | .opened _ :: _ => .error (.unterminated source)

def compile (source : String) : Except TemplateError (List Segment) :=
  assemble source (pieces source.toList)

end Template

/-- A source text that compiles, with its segments. -/
structure Template where
  source : String
  segments : List Template.Segment
  compiled : Template.compile source = .ok segments
  deriving DecidableEq

namespace Template

def empty : Template := ⟨"", [], by rfl⟩

instance : Inhabited Template := ⟨empty⟩

def parse (source : String) : Except TemplateError Template :=
  match h : compile source with
  | .ok segments => .ok ⟨source, segments, h⟩
  | .error reason => .error reason

theorem parse_eq_ok_iff {source : String} {template : Template} :
    parse source = .ok template ↔ template.source = source := by
  constructor
  · intro h
    unfold parse at h
    split at h
    · cases h; rfl
    · cases h
  · intro h
    subst h
    unfold parse
    split
    next segments compiled =>
      have := template.compiled
      rw [compiled] at this
      cases template
      simp_all
    next reason refused =>
      have := template.compiled
      rw [refused] at this
      cases this

/-- First names of the paths that a template looks up, in order and with repetitions. -/
def referencedKeys (template : Template) : List String :=
  template.segments.filterMap fun
    | .literal _ => none
    | .field path => path.head?

def lookup (data : Data) : List String → Option Datum
  | [] => none
  | key :: path => (data.get? key).bind (Datum.at? path)

def renderSegment (data : Data) : Segment → String
  | .literal text => text
  | .field path =>
    match lookup data path with
    | some value => value.shown
    | none => ""

def renderSegments (data : Data) (segments : List Segment) : String :=
  String.join (segments.map (renderSegment data))

def render (template : Template) (data : Data) : String :=
  renderSegments data template.segments

end Template

end FaultMesh
