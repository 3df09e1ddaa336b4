import FaultMesh.Regex
import FaultMesh.Text.Cut

/-!
# Patterns

The written form of regular expressions.  Flags in a group hold to its end; a repetition
needs something to repeat; look-around and back references are no part of the form.  A
pattern is refused too if its automaton would be too large.
-/

set_option autoImplicit false

namespace FaultMesh.Regex

structure Flags where
  caseless : Bool
  multiLine : Bool
  dotAll : Bool
  crlf : Bool
  verbose : Bool
  unicode : Bool
  deriving DecidableEq, Repr

def Flags.default : Flags := ⟨false, false, false, false, false, true⟩

namespace Pattern

def digits (flags : Flags) : CharSet :=
  if flags.unicode then .property CharSet.digitSize Text.isDecimalDigit
  else .ascii Text.isDigit

def spaces (flags : Flags) : CharSet :=
  if flags.unicode then .property CharSet.fewSize Text.isBlank
  else .ascii fun c => c = ' ' || (9 ≤ c.toNat && c.toNat ≤ 13)

def isAsciiWord (c : Char) : Bool := Text.isAlphanumeric c || c = '_'

def isWord (flags : Flags) : Char → Bool :=
  if flags.unicode then Text.isWordChar else isAsciiWord

def words (flags : Flags) : CharSet :=
  if flags.unicode then .property CharSet.wordSize Text.isWordChar else .ascii isAsciiWord

/-- Without the Unicode flag a set holds ASCII only; one that goes beyond is refused. -/
def within? (flags : Flags) (set : CharSet) : Option CharSet :=
  if flags.unicode ∨ ¬ set.contains '\u0080' then some set else none

/-- The same for a character that stands for itself. -/
def literal? (flags : Flags) (c : Char) : Option Char :=
  if flags.unicode ∨ c.toNat < 0x80 then some c else none

def folded (flags : Flags) (set : CharSet) : CharSet :=
  if flags.caseless then .caseless set else set

def dot (flags : Flags) : CharSet :=
  if flags.dotAll then .complement .none
  else if flags.crlf then .complement (.union (.single '\n') (.single '\r'))
  else .complement (.single '\n')

def isEscapable (c : Char) : Bool :=
  0x20 ≤ c.toNat && c.toNat < 0x7F && !Text.isAlphanumeric c && c ≠ '<' && c ≠ '>'

/-! ## Escapes -/

inductive Escape where
  | literal (c : Char)
  | set (set : CharSet)
  | assertion (holds : Assertion)

def scalarValue? (n : Nat) : Option Char :=
  if n < 0xD800 ∨ (0xDFFF < n ∧ n < 0x110000) then some (Char.ofNat n) else none

def hexValue (text : List Char) : Nat :=
  text.foldl (fun n c => n * 16 + Text.hexValue c) 0

def bracedPart? (text : List Char) : Option (List Char × List Char) :=
  Text.splitOnce? '\x7d' text

/-- A character by its number: so many digits, or any between braces. -/
def takeNumbered? (count : Nat) (text : List Char) : Option (Char × List Char) :=
  match text with
  | '\x7b' :: rest => do
    let (digits, rest) ← bracedPart? rest
    if digits.isEmpty ∨ 8 < digits.length ∨ ¬ digits.all Text.isHexDigit then none
    let c ← scalarValue? (hexValue digits)
    return (c, rest)
  | text => do
    let digits := text.take count
    if digits.length < count ∨ ¬ digits.all Text.isHexDigit then none
    let c ← scalarValue? (hexValue digits)
    return (c, text.drop count)

/-- A Unicode property: one letter, or a name between braces, perhaps with its kind. -/
def takeProperty? (text : List Char) : Option (CharSet × List Char) :=
  match text with
  | [] => none
  | '\x7b' :: rest => do
    let (name, rest) ← bracedPart? rest
    let (negated, name) :=
      match name with
      | '^' :: name => (true, name)
      | name => (false, name)
    let name :=
      match Text.splitOnce? '=' name with
      | some (_, value) => value
      | none => (Text.splitOnce? ':' name).elim name Prod.snd
    let set ← CharSet.unicode? name
    return (if negated then .complement set else set, rest)
  | c :: rest => do
    let set ← CharSet.unicode? [c]
    return (set, rest)

def wordAssertion? (flags : Flags) (name : String) : Option Assertion :=
  match name with
  | "start" => some (.wordStart (isWord flags))
  | "end" => some (.wordStop (isWord flags))
  | "start-half" => some (.wordStartHalf (isWord flags))
  | "end-half" => some (.wordStopHalf (isWord flags))
  | _ => none

/-- A word edge, perhaps with its kind between braces; braces that hold no kind are a
repetition. -/
def takeWordEdge? (flags : Flags) (text : List Char) : Option (Escape × List Char) :=
  let plain := some (Escape.assertion (.wordEdge (isWord flags)), text)
  match text with
  | '\x7b' :: rest =>
    match rest with
    | c :: _ =>
      if Text.isLetter c ∨ c = '-' then do
        let (name, rest) ← bracedPart? rest
        let holds ← wordAssertion? flags (String.ofList name)
        return (.assertion holds, rest)
      else plain
    | [] => plain
  | _ => plain

def takeNumberedLiteral? (flags : Flags) (count : Nat) (text : List Char) :
    Option (Escape × List Char) := do
  let (c, rest) ← takeNumbered? count text
  let c ← literal? flags c
  return (.literal c, rest)

/-- What a backslash begins; assertions only stand outside of classes. -/
def takeEscape? (flags : Flags) : List Char → Option (Escape × List Char)
  | [] => none
  | c :: rest =>
    match c with
    | 'd' => some (.set (digits flags), rest)
    | 'D' => (within? flags (.complement (digits flags))).map fun set => (.set set, rest)
    | 's' => some (.set (spaces flags), rest)
    | 'S' => (within? flags (.complement (spaces flags))).map fun set => (.set set, rest)
    | 'w' => some (.set (words flags), rest)
    | 'W' => (within? flags (.complement (words flags))).map fun set => (.set set, rest)
    | 'p' =>
      if flags.unicode then
        (takeProperty? rest).map fun (set, rest) => (.set (folded flags set), rest)
      else none
    | 'P' =>
      if flags.unicode then
        (takeProperty? rest).map fun (set, rest) => (.set (.complement (folded flags set)), rest)
      else none
    | 'b' => takeWordEdge? flags rest
    | 'B' => some (.assertion (.noWordEdge (isWord flags)), rest)
    | '<' => some (.assertion (.wordStart (isWord flags)), rest)
    | '>' => some (.assertion (.wordStop (isWord flags)), rest)
    | 'A' => some (.assertion .start, rest)
    | 'z' => some (.assertion .stop, rest)
    | 'a' => some (.literal '\x07', rest)
    | 'f' => some (.literal '\x0c', rest)
    | 't' => some (.literal '\t', rest)
    | 'n' => some (.literal '\n', rest)
    | 'r' => some (.literal '\r', rest)
    | 'v' => some (.literal '\x0b', rest)
    | 'x' => takeNumberedLiteral? flags 2 rest
    | 'u' => takeNumberedLiteral? flags 4 rest
    | 'U' => takeNumberedLiteral? flags 8 rest
    | c => if isEscapable c then some (.literal c, rest) else none

/-! ## Bracketed sets -/

def skipVerbose (flags : Flags) : Nat → List Char → List Char
  | 0, text => text
  | fuel + 1, text =>
    if flags.verbose then
      match text with
      | '#' :: rest => skipVerbose flags fuel (rest.dropWhile (· ≠ '\n'))
      | c :: rest => if Text.isBlank c then skipVerbose flags fuel rest else text
      | [] => []
    else text

def takePosix? (text : List Char) : Option (CharSet × List Char) :=
  let (negated, text) :=
    match text with
    | '^' :: rest => (true, rest)
    | text => (false, text)
  match Text.splitOnce? ':' text with
  | some (name, ']' :: rest) =>
    (CharSet.posix? (String.ofList name)).map fun set =>
      (if negated then .complement set else set, rest)
  | _ => none

inductive SetItem where
  | literal (c : Char)
  | set (set : CharSet)

def takeSetItem? (flags : Flags) : List Char → Option (SetItem × List Char)
  | [] => none
  | '\\' :: rest => do
    match ← takeEscape? flags rest with
    | (.literal c, rest) => return (.literal c, rest)
    | (.set set, rest) => return (.set set, rest)
    | (.assertion _, _) => none
  | c :: rest => (literal? flags c).map fun c => (.literal c, rest)

def SetItem.toSet (flags : Flags) : SetItem → CharSet
  | .literal c => folded flags (.single c)
  | .set members => members

inductive SetOperator where
  | inter
  | difference
  | symmetricDifference

def SetOperator.apply (operator : SetOperator) (left right : CharSet) : CharSet :=
  match operator with
  | .inter => .inter left right
  | .difference => .difference left right
  | .symmetricDifference => .symmetricDifference left right

/-- What has been read of a bracketed set: the result of the operators so far, the operator
that is open, and the union that is being read. -/
structure SetState where
  before : Option (CharSet × SetOperator)
  current : CharSet

def SetState.result (state : SetState) : CharSet :=
  match state.before with
  | none => state.current
  | some (left, operator) => operator.apply left state.current

def SetState.add (state : SetState) (set : CharSet) : SetState :=
  { state with current := .union state.current set }

def SetState.operate (state : SetState) (operator : SetOperator) : SetState :=
  ⟨some (state.result, operator), .none⟩

mutual

def takeSet? (flags : Flags) : Nat → List Char → Option (CharSet × List Char)
  | 0, _ => none
  | fuel + 1, text => do
    let text := skipVerbose flags text.length text
    let (negated, text) :=
      match text with
      | '^' :: rest => (true, skipVerbose flags rest.length rest)
      | text => (false, text)
    let dashes := text.takeWhile (· = '-')
    let text := text.dropWhile (· = '-')
    let start : SetState :=
      ⟨none, if dashes.isEmpty then .none else folded flags (.single '-')⟩
    let (start, text) :=
      match text with
      | ']' :: rest =>
        if dashes.isEmpty then (start.add (.single ']'), rest) else (start, text)
      | text => (start, text)
    let (set, rest) ← takeSetItems? flags fuel start text
    let set ← within? flags (if negated then .complement set else set)
    return (set, rest)

def takeSetItems? (flags : Flags) : Nat → SetState → List Char → Option (CharSet × List Char)
  | 0, _, _ => none
  | fuel + 1, state, text => do
    match skipVerbose flags text.length text with
    | [] => none
    | ']' :: rest => return (state.result, rest)
    | '&' :: '&' :: rest => takeSetItems? flags fuel (state.operate .inter) rest
    | '-' :: '-' :: rest => takeSetItems? flags fuel (state.operate .difference) rest
    | '~' :: '~' :: rest => takeSetItems? flags fuel (state.operate .symmetricDifference) rest
    | '[' :: rest =>
      let posix :=
        match rest with
        | ':' :: name => takePosix? name
        | _ => none
      let (set, rest) ←
        match posix with
        | some (set, rest) => (within? flags (folded flags set)).map fun set => (set, rest)
        | none => takeSet? flags fuel rest
      takeSetItems? flags fuel (state.add set) rest
    | text =>
      let (item, rest) ← takeSetItem? flags text
      let rest := skipVerbose flags rest.length rest
      let isRange :=
        match rest with
        | '-' :: ']' :: _ => false
        | '-' :: '-' :: _ => false
        | '-' :: _ => true
        | _ => false
      if isRange then
        let rest := skipVerbose flags rest.length (rest.drop 1)
        let (high, rest) ← takeSetItem? flags rest
        match item, high with
        | .literal low, .literal high =>
          if high < low then none
          else takeSetItems? flags fuel (state.add (folded flags (.range low.toNat high.toNat))) rest
        | _, _ => none
      else takeSetItems? flags fuel (state.add (item.toSet flags)) rest

end

/-! ## Groups and repetitions -/

/-- Flags behind `(?` up to the colon or the closing bracket, which stays; `seen` are the
letters that came before. -/
def takeFlags? : Nat → Bool → List Char → Flags → List Char → Option (Flags × List Char)
  | 0, _, _, _, _ => none
  | _ + 1, _, _, _, [] => none
  | fuel + 1, on, seen, flags, c :: rest =>
    if c = ':' ∨ c = ')' then
      if seen.isEmpty ∧ c = ')' then none
      else if seen.head? = some '-' then none
      else some (flags, c :: rest)
    else if c ∈ seen then none
    else
      match c with
      | '-' => takeFlags? fuel false ('-' :: seen) flags rest
      | 'i' => takeFlags? fuel on (c :: seen) { flags with caseless := on } rest
      | 'm' => takeFlags? fuel on (c :: seen) { flags with multiLine := on } rest
      | 's' => takeFlags? fuel on (c :: seen) { flags with dotAll := on } rest
      | 'R' => takeFlags? fuel on (c :: seen) { flags with crlf := on } rest
      | 'x' => takeFlags? fuel on (c :: seen) { flags with verbose := on } rest
      | 'u' => takeFlags? fuel on (c :: seen) { flags with unicode := on } rest
      | 'U' => takeFlags? fuel on (c :: seen) flags rest
      | _ => none

def isNameChar (first : Bool) (c : Char) : Bool :=
  c = '_' || Text.isAnyLetter c ||
    (!first && (Text.isAnyNumber c || c = '.' || c = '[' || c = ']'))

/-- The name of a group up to its closing angle. -/
def takeName? (text : List Char) : Option (List Char × List Char) := do
  let (name, rest) ← Text.splitOnce? '>' text
  match name with
  | [] => none
  | c :: others => if isNameChar true c && others.all (isNameChar false) then (name, rest) else none

/-- A count between braces, with blanks around it. -/
def readCount? (text : List Char) : Option Nat :=
  let text := Text.trim text
  if text.isEmpty ∨ ¬ text.all Text.isDigit then none
  else
    let value := Text.decimalValue text
    if value < UInt32.size then some value else none

def takeCounts? (text : List Char) : Option (Nat × Option Nat × List Char) := do
  let (inside, rest) ← bracedPart? text
  match Text.splitOnce? ',' inside with
  | none =>
    let count ← readCount? inside
    return (count, some count, rest)
  | some (low, high) =>
    let low ← readCount? low
    if (Text.trim high).isEmpty then return (low, none, rest)
    else
      let high ← readCount? high
      if high < low then none else return (low, some high, rest)

def skipLazy (flags : Flags) (text : List Char) : List Char :=
  match skipVerbose flags text.length text with
  | '?' :: rest => rest
  | _ => text

/-- What a group holds so far: its finished alternatives, and the parts of the current one
with the last one first; a part that only sets flags cannot be repeated. -/
structure GroupState where
  flags : Flags
  alternatives : List Regex
  parts : List (Option Regex)

namespace GroupState

def alternative (state : GroupState) : Regex :=
  sequences (state.parts.reverse.filterMap id)

def result (state : GroupState) : Regex :=
  eithers ((state.alternative :: state.alternatives).reverse)

def push (state : GroupState) (part : Regex) : GroupState :=
  { state with parts := some part :: state.parts }

def nextAlternative (state : GroupState) : GroupState :=
  { state with alternatives := state.alternative :: state.alternatives, parts := [] }

def repeatLast? (state : GroupState) (low : Nat) (high : Option Nat) : Option GroupState :=
  match state.parts with
  | some part :: parts => some { state with parts := some (part.repeated low high) :: parts }
  | _ => none

end GroupState

/-- How a group is opened, behind its bracket: the flags of its content, or flags for the
rest of the group that it stands in. -/
inductive Opening where
  | group (flags : Flags) (name : Option (List Char)) (rest : List Char)
  | flags (flags : Flags) (rest : List Char)

def takeOpening? (flags : Flags) (text : List Char) : Option Opening :=
  match text with
  | '?' :: 'P' :: '<' :: rest | '?' :: '<' :: rest => do
    let (name, rest) ← takeName? rest
    return .group flags (some name) rest
  | '?' :: rest => do
    match ← takeFlags? (rest.length + 1) true [] flags rest with
    | (flags, ':' :: rest) => return .group flags none rest
    | (flags, _ :: rest) => return .flags flags rest
    | (_, []) => none
  | rest => some (.group flags none rest)

def lineStart (flags : Flags) : Assertion :=
  if flags.multiLine then .lineStart flags.crlf else .start

def lineStop (flags : Flags) : Assertion :=
  if flags.multiLine then .lineStop flags.crlf else .stop

def nestLimit : Nat := 250

/-- The rest of a group; it ends at a closing bracket, which stays, or with the text.
`names` are the names of groups that were met before. -/
def takeGroup? (nest : Nat) : Nat → List (List Char) → GroupState → List Char →
    Option (Regex × List (List Char) × List Char)
  | 0, _, _, _ => none
  | fuel + 1, names, state, text =>
    let flags := state.flags
    let goOn := takeGroup? nest fuel names
    match skipVerbose flags text.length text with
    | [] => some (state.result, names, [])
    | ')' :: rest => some (state.result, names, ')' :: rest)
    | '|' :: rest => goOn state.nextAlternative rest
    | '*' :: rest => (state.repeatLast? 0 none).bind fun state => goOn state (skipLazy flags rest)
    | '+' :: rest => (state.repeatLast? 1 none).bind fun state => goOn state (skipLazy flags rest)
    | '?' :: rest =>
      (state.repeatLast? 0 (some 1)).bind fun state => goOn state (skipLazy flags rest)
    | '\x7b' :: rest => do
      let (low, high, rest) ← takeCounts? rest
      let state ← state.repeatLast? low high
      goOn state (skipLazy flags rest)
    | '(' :: rest => do
      match ← takeOpening? flags rest with
      | .flags flags rest => goOn { state with flags, parts := none :: state.parts } rest
      | .group inner name rest =>
        let names ←
          match name with
          | none => some names
          | some name => if name ∈ names then none else some (name :: names)
        match nest with
        | 0 => none
        | nest + 1 =>
          match ← takeGroup? nest fuel names ⟨inner, [], []⟩ rest with
          | (body, names, ')' :: rest) =>
            takeGroup? (nest + 1) fuel names (state.push body) rest
          | _ => none
    | '[' :: rest => do
      let (set, rest) ← takeSet? flags (2 * rest.length + 2) rest
      goOn (state.push (.one set)) rest
    | '.' :: rest => do
      let set ← within? flags (dot flags)
      goOn (state.push (.one set)) rest
    | '^' :: rest => goOn (state.push (.assertion (lineStart flags))) rest
    | '$' :: rest => goOn (state.push (.assertion (lineStop flags))) rest
    | '\\' :: rest => do
      match ← takeEscape? flags rest with
      | (.literal c, rest) => goOn (state.push (.one (folded flags (.single c)))) rest
      | (.set set, rest) => goOn (state.push (.one set)) rest
      | (.assertion holds, rest) => goOn (state.push (.assertion holds)) rest
    | c :: rest => do
      let c ← literal? flags c
      goOn (state.push (.one (folded flags (.single c)))) rest

end Pattern

inductive Pattern.Flaw where
  | malformed
  | tooLarge
  deriving DecidableEq, Repr

def sizeLimit : Nat := 10485760

def Pattern.Flaw.message : Pattern.Flaw → String
  | .malformed => "regex parse error:"
  | .tooLarge => s!"Compiled regex exceeds size limit of {sizeLimit} bytes."

def ofPattern (pattern : String) : Except Pattern.Flaw Regex :=
  let text := pattern.toList
  match Pattern.takeGroup? Pattern.nestLimit (text.length + 1) [] ⟨.default, [], []⟩ text with
  | some (regex, _, []) => if sizeLimit < regex.size then .error .tooLarge else .ok regex
  | _ => .error .malformed

end FaultMesh.Regex
