import FaultMesh.Json.Lexeme

/-!
# JSON documents as written

A document is read once into a tree that keeps what the text says: members in order with
their repetitions, and the problem at the place where the text goes wrong.  So every text
has a tree, and what is wanted of it is a question to the tree: the first problem that a
reader meets from left to right decides, and a reader that passes over a value does not
meet the problems of reading it.
-/

set_option autoImplicit false

namespace FaultMesh.Json

open FaultMesh.Text (Glyph)

inductive Scalar where
  | null
  | boolean (value : Bool)
  | number (value : Numeral)
  | text (content : Except Problem String)

/-- A value with the octets up to its start or its end.  A list or an object that does not
close has a break behind its last item. -/
inductive Node where
  | scalar (value : Scalar) (stop : Nat)
  | list (start : Nat) (items : List Node) (broken : Option Break)
  | object (start : Nat) (members : List (Except Problem String × Node)) (broken : Option Break)
  | broken (reason : Break)
  deriving Inhabited

/-- A document: its value and, behind it, anything but white space. -/
structure Document where
  root : Node
  excess : Option Problem

abbrev Rest := Option (Nat × List Glyph)

def scanWord (value : Scalar) : List Char → Nat → List Glyph → Node × Rest
  | [], offset, glyphs => (.scalar value offset, some (offset, glyphs))
  | _ :: _, offset, [] => (.broken (.at .endInValue offset), none)
  | c :: word, offset, glyph :: rest =>
    if glyph = .scalar c then scanWord value word (offset + 1) rest
    else (.broken (.at .expectedWord (offset + 1)), none)

def numberNode (offset : Nat) (glyphs : List Glyph) : Node × Rest :=
  match scanNumber offset glyphs with
  | .done numeral stop rest => (.scalar (.number numeral) stop, some (stop, rest))
  | .stuck reason => (.broken reason, none)

def textNode (offset : Nat) (glyphs : List Glyph) : Node × Rest :=
  match scanString offset (.plain none) (.ok []) none glyphs with
  | .done content stop rest => (.scalar (.text content) stop, some (stop, rest))
  | .stuck reason => (.broken reason, none)

def scalarNode (offset : Nat) : List Glyph → Node × Rest
  | [] => (.broken (.at .endInValue offset), none)
  | .stray width :: rest =>
    (.broken (.at .expectedValue (peekOffset offset (.stray width :: rest))), none)
  | .scalar c :: rest =>
    if c = '"' then textNode (offset + 1) rest
    else if c = '-' ∨ Text.isDigit c then numberNode offset (.scalar c :: rest)
    else if c = 'n' then scanWord .null ['u', 'l', 'l'] (offset + 1) rest
    else if c = 't' then scanWord (.boolean true) ['r', 'u', 'e'] (offset + 1) rest
    else if c = 'f' then scanWord (.boolean false) ['a', 'l', 's', 'e'] (offset + 1) rest
    else (.broken (.at .expectedValue (offset + 1)), none)

inductive NextItem where
  | item (offset : Nat) (glyphs : List Glyph)
  | closed (offset : Nat) (rest : List Glyph)
  | stuck (reason : Break)

/-- Looks for a further item of what `closing` ends: after the first one a comma has to
stand before it. -/
def nextItem (closing : Char) (endKind separatorKind : Problem.Kind) (first : Bool)
    (offset : Nat) (glyphs : List Glyph) : NextItem :=
  let (offset, glyphs) := skipSpace offset glyphs
  match glyphs with
  | [] => .stuck (.at endKind offset)
  | glyph :: rest =>
    if glyph = .scalar closing then .closed (offset + 1) rest
    else if first then .item offset (glyph :: rest)
    else if glyph = .scalar ',' then
      let (offset, rest) := skipSpace (offset + 1) rest
      match rest with
      | [] => .stuck (.at .endInValue offset)
      | glyph :: after =>
        if glyph = .scalar closing then .stuck (.at .trailingComma (offset + 1))
        else .item offset (glyph :: after)
    else .stuck (.at separatorKind (offset + 1))

def expectColon (offset : Nat) (glyphs : List Glyph) : Except Break (Nat × List Glyph) :=
  let (offset, glyphs) := skipSpace offset glyphs
  match glyphs with
  | [] => .error (.at .endInObject offset)
  | glyph :: rest =>
    if glyph = .scalar ':' then .ok (offset + 1, rest)
    else .error (.at .expectedColon (offset + 1))

mutual

/-- The value that begins here, with fuel for every glyph that its parts take up. -/
def parseNode : Nat → Nat → List Glyph → Node × Rest
  | 0, offset, _ => (.broken (.at .endInValue offset), none)
  | fuel + 1, offset, glyphs =>
    let (offset, glyphs) := skipSpace offset glyphs
    match glyphs with
    | .scalar '[' :: rest =>
      let (items, reason, after) := parseItems fuel true (offset + 1) rest
      (.list offset items reason, after)
    | .scalar '\x7b' :: rest =>
      let (members, reason, after) := parseMembers fuel true (offset + 1) rest
      (.object offset members reason, after)
    | glyphs => scalarNode offset glyphs

def parseItems : Nat → Bool → Nat → List Glyph → List Node × Option Break × Rest
  | 0, _, offset, _ => ([], some (.at .endInList offset), none)
  | fuel + 1, first, offset, glyphs =>
    match nextItem ']' .endInList .expectedListSeparator first offset glyphs with
    | .stuck reason => ([], some reason, none)
    | .closed offset rest => ([], none, some (offset, rest))
    | .item offset glyphs =>
      match parseNode fuel offset glyphs with
      | (node, none) => ([node], none, none)
      | (node, some (offset, rest)) =>
        let (items, reason, after) := parseItems fuel false offset rest
        (node :: items, reason, after)

def parseMembers : Nat → Bool → Nat → List Glyph →
    List (Except Problem String × Node) × Option Break × Rest
  | 0, _, offset, _ => ([], some (.at .endInObject offset), none)
  | fuel + 1, first, offset, glyphs =>
    match nextItem '\x7d' .endInObject .expectedObjectSeparator first offset glyphs with
    | .stuck reason => ([], some reason, none)
    | .closed offset rest => ([], none, some (offset, rest))
    | .item offset glyphs =>
      match glyphs with
      | .scalar '"' :: rest =>
        match scanString (offset + 1) (.plain none) (.ok []) none rest with
        | .stuck reason => ([], some reason, none)
        | .done key offset rest =>
          match expectColon offset rest with
          | .error reason => ([(key, .broken reason)], none, none)
          | .ok (offset, rest) =>
            match parseNode fuel offset rest with
            | (node, none) => ([(key, node)], none, none)
            | (node, some (offset, rest)) =>
              let (members, reason, after) := parseMembers fuel false offset rest
              ((key, node) :: members, reason, after)
      | _ => ([], some (.at .keyNotString (offset + 1)), none)

end

/-- Fuel for a text: at most two calls for a glyph, and one for the value itself. -/
def fuelFor (glyphs : List Glyph) : Nat := 2 * glyphs.length + 2

def parseGlyphs (glyphs : List Glyph) : Document :=
  match parseNode (fuelFor glyphs) 0 glyphs with
  | (root, none) => ⟨root, none⟩
  | (root, some (offset, rest)) =>
    let (offset, rest) := skipSpace offset rest
    ⟨root, if rest.isEmpty then none else some ⟨.trailingCharacters, offset + 1⟩⟩

def parse (octets : List UInt8) : Document :=
  parseGlyphs (Text.Utf8.glyphs octets)

end FaultMesh.Json
