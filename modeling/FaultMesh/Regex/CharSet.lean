import FaultMesh.Text.CaseFold

/-!
# Sets of characters

What a pattern may ask of one character.  Sets are combined like propositions, and a set
may disregard letter case.

A set has a size: about how many octets an automaton takes that recognizes its characters
by their UTF-8, which is large for scattered properties.
-/

set_option autoImplicit false

namespace FaultMesh

inductive CharSet where
  | none
  | range (low high : Nat)
  | property (size : Nat) (holds : Char → Bool)
  | caseless (set : CharSet)
  | complement (set : CharSet)
  | union (left right : CharSet)
  | inter (left right : CharSet)

namespace CharSet

def contains : CharSet → Char → Bool
  | .none, _ => false
  | .range low high, c => low ≤ c.toNat && c.toNat ≤ high
  | .property _ holds, c => holds c
  | .caseless set, c => (Text.caseVariants c).any set.contains
  | .complement set, c => !set.contains c
  | .union left right, c => left.contains c || right.contains c
  | .inter left right, c => left.contains c && right.contains c

def stateSize : Nat := 32

def beyondSize : Nat := 960

def size : CharSet → Nat
  | .none => stateSize
  | .range _ high => stateSize * (Char.ofNat high).utf8Size
  | .property size _ => size
  | .caseless set => set.size
  | .complement set => set.size + beyondSize
  | .union left right => left.size + right.size
  | .inter left right => left.size + right.size

def single (c : Char) : CharSet := .range c.toNat c.toNat

def difference (left right : CharSet) : CharSet := .inter left (.complement right)

def symmetricDifference (left right : CharSet) : CharSet :=
  .union (difference left right) (difference right left)

def ascii (holds : Char → Bool) : CharSet :=
  .property (2 * stateSize) fun c => c.toNat < 0x80 && holds c

def letterSize : Nat := 40000

def caseSize : Nat := 26000

def wordSize : Nat := 46000

def digitSize : Nat := 4500

def fewSize : Nat := 700

def posix? (name : String) : Option CharSet :=
  let visible (c : Char) : Bool := 0x21 ≤ c.toNat && c.toNat ≤ 0x7E
  match name with
  | "alnum" => some (ascii Text.isAlphanumeric)
  | "alpha" => some (ascii Text.isLetter)
  | "ascii" => some (ascii fun _ => true)
  | "blank" => some (ascii fun c => c = ' ' || c = '\t')
  | "cntrl" => some (ascii fun c => c.toNat < 0x20 || c.toNat = 0x7F)
  | "digit" => some (ascii Text.isDigit)
  | "graph" => some (ascii visible)
  | "lower" => some (ascii fun c => 'a' ≤ c && c ≤ 'z')
  | "print" => some (ascii fun c => c = ' ' || visible c)
  | "punct" => some (ascii fun c => visible c && !Text.isAlphanumeric c)
  | "space" => some (ascii fun c => c = ' ' || (9 ≤ c.toNat && c.toNat ≤ 13))
  | "upper" => some (ascii fun c => 'A' ≤ c && c ≤ 'Z')
  | "word" => some (ascii fun c => Text.isAlphanumeric c || c = '_')
  | "xdigit" => some (ascii Text.isHexDigit)
  | _ => none

/-- A property name without what does not matter in it. -/
def looseName (name : List Char) : String :=
  String.ofList ((name.filter fun c => c ≠ '_' && c ≠ '-' && c ≠ ' ').map Text.lowerAscii)

def unicode? (name : List Char) : Option CharSet :=
  let property (size : Nat) (holds : Char → Bool) : Option CharSet := some (.property size holds)
  let runs (table : List Text.Run) : Option CharSet :=
    property (table.length * 2 * stateSize) (Text.inRuns table)
  let letters (low high : Nat) : Option CharSet :=
    property fewSize fun c => Text.isAnyLetter c && low ≤ c.toNat && c.toNat ≤ high
  match looseName name with
  | "any" => property fewSize fun _ => true
  | "ascii" => some (ascii fun _ => true)
  | "assigned" => property wordSize fun c => Text.isShown c || Text.isMark c || Text.isBlank c
  | "alphabetic" | "alpha" =>
    property letterSize fun c => Text.isAnyLetter c || Text.inRuns Text.letterNumbers c ||
      Text.inRuns Text.circledLetters c || Text.inRuns Text.spacingMarks c
  | "whitespace" | "wspace" | "space" => property fewSize Text.isBlank
  | "l" | "letter" => property letterSize Text.isAnyLetter
  | "lu" | "uppercaseletter" | "uppercase" | "upper" => property caseSize Text.isUpper
  | "ll" | "lowercaseletter" | "lowercase" | "lower" => property caseSize Text.isLower
  | "lt" | "titlecaseletter" => runs Text.titlecaseLetters
  | "lm" | "modifierletter" => runs Text.modifierLetters
  | "lo" | "otherletter" => runs Text.otherLetters
  | "lc" | "casedletter" =>
    property caseSize fun c =>
      Text.isUpper c || Text.isLower c || Text.inRuns Text.titlecaseLetters c
  | "m" | "mark" | "combiningmark" => property digitSize Text.isMark
  | "mn" | "nonspacingmark" => runs Text.nonspacingMarks
  | "mc" | "spacingmark" => runs Text.spacingMarks
  | "n" | "number" => property digitSize Text.isAnyNumber
  | "nd" | "decimalnumber" | "digit" => property digitSize Text.isDecimalDigit
  | "nl" | "letternumber" => runs Text.letterNumbers
  | "no" | "othernumber" => runs Text.otherNumbers
  | "p" | "punctuation" | "punct" => runs Text.punctuation
  | "pc" | "connectorpunctuation" => runs Text.connectors
  | "s" | "symbol" => runs Text.symbols
  | "z" | "separator" => runs Text.separators
  | "c" | "other" =>
    property wordSize fun c => !(Text.isShown c || Text.isMark c || Text.inRuns Text.separators c)
  | "cc" | "control" | "cntrl" =>
    property fewSize fun c => c.toNat < 0x20 || (0x7F ≤ c.toNat && c.toNat ≤ 0x9F)
  | "latin" =>
    property digitSize fun c => Text.isAnyLetter c && (c.toNat < 0x250 && c.toNat ≠ 0xB5 ||
      (0x1E00 ≤ c.toNat && c.toNat ≤ 0x1EFF))
  | "greek" =>
    property digitSize fun c => Text.isAnyLetter c && ((0x370 ≤ c.toNat && c.toNat ≤ 0x3FF) ||
      (0x1F00 ≤ c.toNat && c.toNat ≤ 0x1FFF))
  | "cyrillic" => some (.range 0x400 0x52F)
  | "han" => property digitSize fun c => (0x4E00 ≤ c.toNat && c.toNat ≤ 0x9FFF) ||
      (0x3400 ≤ c.toNat && c.toNat ≤ 0x4DBF) || (0x20000 ≤ c.toNat && c.toNat ≤ 0x323AF) ||
      c.toNat = 0x3005 || c.toNat = 0x3007
  | "hiragana" => letters 0x3041 0x309F
  | "katakana" => letters 0x30A1 0x30FF
  | "arabic" => letters 0x600 0x6FF
  | "hebrew" => letters 0x590 0x5FF
  | _ => Option.none

end CharSet

end FaultMesh
