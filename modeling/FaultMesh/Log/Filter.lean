import FaultMesh.Decimal.Integer
import FaultMesh.Log
import FaultMesh.Text.Cut
import FaultMesh.Text.Property

/-!
# Log filters

A filter is a list of directives.  A directive gives the most detailed level of the events
whose target begins with its own; of several such directives the one with the longest
target counts, and of those with the same target the last.  A filter without directives
lets errors through.  A directive for a span says nothing about events outside of spans.
-/

set_option autoImplicit false

namespace FaultMesh.Log

inductive FilterError where
  | malformed
  | unknownLevel
  deriving DecidableEq, Repr

def FilterError.message : FilterError → String
  | .malformed => "invalid filter directive"
  | .unknownLevel =>
    "error parsing level filter: expected one of \"off\", \"error\", \"warn\", \"info\", " ++
      "\"debug\", \"trace\", or a number 0-5"

structure Directive where
  target : Option String
  most : Verbosity
  deriving DecidableEq, Repr

structure Filter where
  directives : List Directive
  deriving DecidableEq, Repr

namespace Filter

def levels : List Verbosity :=
  [.off, .upTo .error, .upTo .warn, .upTo .info, .upTo .debug, .upTo .trace]

def levelOfName? (name : String) : Option Verbosity :=
  match name with
  | "off" => some .off
  | "error" => some (.upTo .error)
  | "warn" => some (.upTo .warn)
  | "info" => some (.upTo .info)
  | "debug" => some (.upTo .debug)
  | "trace" => some (.upTo .trace)
  | _ => none

/-- A level by its name in any case, or by its number. -/
def level? (text : List Char) : Option Verbosity :=
  match Decimal.readUnsigned 64 text with
  | .ok number => levels[number]?
  | .error _ => levelOfName? (String.ofList (text.map Text.lowerAscii))

/-- The level behind an equals sign; none stands for the most detailed one. -/
def readLevel (text : List Char) : Except FilterError Verbosity :=
  if text.isEmpty then .ok (.upTo .trace)
  else
    match level? text with
    | some most => .ok most
    | none => .error .unknownLevel

/-- A level, or a target all of whose events are let through. -/
def readBare (text : List Char) : Directive :=
  match level? text with
  | some most => ⟨none, most⟩
  | none => ⟨some (String.ofList text), .upTo .trace⟩

def checkLevel : List Char → Except FilterError Unit
  | [] => .ok ()
  | '=' :: level => (readLevel level).map fun _ => ()
  | _ => .error .malformed

/-- The rest of a directive for a span. -/
def checkSpan (text : List Char) : Except FilterError Unit :=
  let name := text.takeWhile fun c => c ≠ ']' && c ≠ '\x7b'
  match text.drop name.length with
  | ']' :: rest => checkLevel rest
  | '\x7b' :: fields =>
    let field := Text.before '\x7d' fields
    match fields.drop field.length with
    | '\x7d' :: ']' :: rest => if field.isEmpty then .error .malformed else checkLevel rest
    | _ => .error .malformed
  | _ => .error .malformed

def startsTarget (c : Char) : Bool :=
  c = '-' || c = ':' || c = '_' || Text.isAnyLetter c || Text.isAnyNumber c

/-- A directive, if it says something about events outside of spans. -/
def readDirective (text : List Char) : Except FilterError (Option Directive) :=
  match Text.trim text with
  | [] => .error .malformed
  | '[' :: span => (checkSpan span).map fun _ => none
  | c :: rest =>
    let text := c :: rest
    let head := text.takeWhile fun c => c ≠ '=' && c ≠ '['
    if !startsTarget c then .error .malformed
    else
      match text.drop head.length with
      | '=' :: level =>
        (readLevel level).map fun most => some ⟨some (String.ofList head), most⟩
      | '[' :: span => (checkSpan span).map fun _ => none
      | _ => .ok (some (readBare text))

def readDirectives : List (List Char) → Except FilterError (List (Option Directive))
  | [] => .ok []
  | text :: rest => do
    let directive ← readDirective text
    let others ← readDirectives rest
    return directive :: others

def read (text : String) : Except FilterError Filter := do
  let pieces := (List.splitOn ',' text.toList).filter fun piece => !piece.isEmpty
  let directives ← readDirectives pieces
  if directives.isEmpty then return ⟨[⟨none, .upTo .error⟩]⟩
  else return ⟨directives.filterMap id⟩

def concerns (directive : Directive) (target : String) : Bool :=
  match directive.target with
  | none => true
  | some start => start.toList.isPrefixOf target.toList

def weight (directive : Directive) : Nat :=
  match directive.target with
  | none => 0
  | some start => start.utf8ByteSize + 1

/-- The weightier of two directives, and of equal ones the second. -/
def weightier (first second : Directive) : Directive :=
  if weight second < weight first then first else second

def directive? (filter : Filter) (target : String) : Option Directive :=
  match filter.directives.filter fun directive => concerns directive target with
  | [] => none
  | directive :: others => some (others.foldl weightier directive)

def verbosity (filter : Filter) (target : String) : Verbosity :=
  match filter.directive? target with
  | none => .off
  | some directive => directive.most

def admits (filter : Filter) (event : Event) : Bool :=
  (filter.verbosity event.target).admits event.level

end Filter

end FaultMesh.Log
