import FaultMesh.Schema.Mismatch

/-!
# Problems of a JSON text

What is wrong with a text and after how many octets that shows.  A text that breaks off
is told apart from one that goes wrong, and both from a well-formed text of another shape
than the wanted one.
-/

set_option autoImplicit false

namespace FaultMesh.Json

inductive Problem.Kind where
  | endInValue
  | endInList
  | endInObject
  | endInString
  | expectedValue
  | expectedWord
  | expectedColon
  | expectedListSeparator
  | expectedObjectSeparator
  | trailingComma
  | trailingCharacters
  | keyNotString
  | invalidNumber
  | numberOutOfRange
  | invalidEscape
  | invalidCodePoint
  | loneSurrogate
  | unfinishedSurrogate
  | controlCharacter
  | tooDeep
  | mismatch (reason : Schema.Mismatch)
  deriving DecidableEq, Repr

structure Problem where
  kind : Problem.Kind
  offset : Nat
  deriving DecidableEq, Repr

inductive Problem.Category where
  | syntactic
  | truncated
  | mismatched
  deriving DecidableEq, Repr

namespace Problem

def Kind.category : Kind → Category
  | .endInValue | .endInList | .endInObject | .endInString => .truncated
  | .mismatch _ => .mismatched
  | _ => .syntactic

def Kind.text : Kind → String
  | .endInValue => "EOF while parsing a value"
  | .endInList => "EOF while parsing a list"
  | .endInObject => "EOF while parsing an object"
  | .endInString => "EOF while parsing a string"
  | .expectedValue => "expected value"
  | .expectedWord => "expected ident"
  | .expectedColon => "expected `:`"
  | .expectedListSeparator => "expected `,` or `]`"
  | .expectedObjectSeparator => "expected `,` or `\x7d`"
  | .trailingComma => "trailing comma"
  | .trailingCharacters => "trailing characters"
  | .keyNotString => "key must be a string"
  | .invalidNumber => "invalid number"
  | .numberOutOfRange => "number out of range"
  | .invalidEscape => "invalid escape"
  | .invalidCodePoint => "invalid unicode code point"
  | .loneSurrogate => "lone leading surrogate in hex escape"
  | .unfinishedSurrogate => "unexpected end of hex escape"
  | .controlCharacter => "control character (\\u0000-\\u001F) found while parsing a string"
  | .tooDeep => "recursion limit exceeded"
  | .mismatch reason => reason.message

def category (problem : Problem) : Category := problem.kind.category

/-- Line, counted from one, and octets of that line after the first octets of a text. -/
def position (octets : List UInt8) (offset : Nat) : Nat × Nat :=
  let passed := octets.take offset
  (1 + passed.count 10, (passed.reverse.takeWhile (· ≠ 10)).length)

def message (octets : List UInt8) (problem : Problem) : String :=
  let (line, column) := position octets problem.offset
  s!"{problem.kind.text} at line {line} column {column}"

end Problem

end FaultMesh.Json
