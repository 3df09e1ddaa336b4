import FaultMesh.Toml.Lexeme
import FaultMesh.Toml.Scalar
import FaultMesh.Toml.Tree

/-!
# TOML documents

A document is a sequence of lines: headers, which name the table that grows from there on,
and keys with their values.  A document is refused as a whole for anything wrong in it.
Lists and inline tables nest to a depth of 80.
-/

set_option autoImplicit false

namespace FaultMesh.Toml

def depthLimit : Nat := 80

def isDelimiter (c : Char) : Bool :=
  isSpace c || c = '\n' || c = '\r' || c = ',' || c = ']' || c = '\x7d' || c = '#'

/-- A bare scalar.  A date and a time with a space between them are one. -/
def takeScalar? (text : List Char) : Option (Value × List Char) :=
  let word := text.takeWhile fun c => !isDelimiter c
  let rest := text.dropWhile fun c => !isDelimiter c
  let whole :=
    match takeDate? word, rest with
    | some (_, []), ' ' :: c :: after =>
      if Text.isDigit c then
        some (word ++ ' ' :: (c :: after).takeWhile fun c => !isDelimiter c,
          (c :: after).dropWhile fun c => !isDelimiter c)
      else none
    | _, _ => none
  let (word, rest) := whole.getD (word, rest)
  (scalar? word).map fun value => (value, rest)

/-- Drops spaces, line ends and comments, with fuel for each line. -/
def skipFiller? : Nat → List Char → Option (List Char)
  | 0, _ => none
  | fuel + 1, text => do
    let text ← skipComment? (skipSpace text)
    match newline? text with
    | some rest => skipFiller? fuel rest
    | none => some text

def skipFillers? (text : List Char) : Option (List Char) :=
  skipFiller? (text.length + 1) text

mutual

def takeValue? : Nat → Nat → List Char → Option (Value × List Char)
  | 0, _, _ => none
  | fuel + 1, depth, text =>
    match takeString? text with
    | some outcome => outcome.map fun (text, rest) => (.text (String.ofList text), rest)
    | none =>
      match text with
      | '[' :: rest =>
        if depth = 0 then none
        else (takeItems? fuel (depth - 1) rest).map fun (items, rest) => (.list items, rest)
      | '\x7b' :: rest =>
        if depth = 0 then none
        else (takeMembers? fuel (depth - 1) [] rest).map fun (entries, rest) =>
          (.table (Tree.toEntries entries), rest)
      | text => takeScalar? text

def takeItems? : Nat → Nat → List Char → Option (List Value × List Char)
  | 0, _, _ => none
  | fuel + 1, depth, text => do
    match ← skipFillers? text with
    | ']' :: rest => return ([], rest)
    | text =>
      let (item, rest) ← takeValue? fuel depth text
      match ← skipFillers? rest with
      | ',' :: rest =>
        let (items, rest) ← takeItems? fuel depth rest
        return (item :: items, rest)
      | ']' :: rest => return ([item], rest)
      | _ => none

def takeMembers? : Nat → Nat → List (String × Tree) → List Char →
    Option (List (String × Tree) × List Char)
  | 0, _, _, _ => none
  | fuel + 1, depth, entries, text => do
    match ← skipFillers? text with
    | '\x7d' :: rest => return (entries, rest)
    | text =>
      let (path, key, rest) ← takeKey? (text.length + 1) text
      match rest with
      | '=' :: rest =>
        let (value, rest) ← takeValue? fuel depth (skipSpace rest)
        let entries ← Tree.write path key value entries
        match ← skipFillers? rest with
        | ',' :: rest => takeMembers? fuel depth entries rest
        | '\x7d' :: rest => return (entries, rest)
        | _ => none
      | _ => none

end

def endLine? (text : List Char) : Option (List Char) := do
  match ← skipComment? (skipSpace text) with
  | [] => some []
  | text => newline? text

def takeHeader? (closing : List Char) (text : List Char) :
    Option (List String × String × List Char) := do
  let (path, key, rest) ← takeKey? (text.length + 1) text
  if closing.isPrefixOf rest then return (path, key, rest.drop closing.length) else none

def takeLines? : Nat → List String → List (String × Tree) → List Char →
    Option (List (String × Tree))
  | 0, _, _, _ => none
  | fuel + 1, header, root, text => do
    match ← skipFillers? text with
    | [] => return root
    | '[' :: '[' :: rest =>
      let (path, key, rest) ← takeHeader? [']', ']'] rest
      let root ← Tree.openElement path key root
      let rest ← endLine? rest
      takeLines? fuel (path ++ [key]) root rest
    | '[' :: rest =>
      let (path, key, rest) ← takeHeader? [']'] rest
      let root ← Tree.openTable path key root
      let rest ← endLine? rest
      takeLines? fuel (path ++ [key]) root rest
    | text =>
      let (path, key, rest) ← takeKey? (text.length + 1) text
      match rest with
      | '=' :: rest =>
        let rest := skipSpace rest
        let (value, rest) ← takeValue? (2 * rest.length + 2) depthLimit rest
        let root ← Tree.writeBelow header path key value root
        let rest ← endLine? rest
        takeLines? fuel header root rest
      | _ => none

def parseChars (text : List Char) : Option (List (String × Value)) :=
  let text :=
    match text with
    | '\uFEFF' :: rest => rest
    | text => text
  (takeLines? (text.length + 1) [] [] text).map Tree.toEntries

def parse (text : String) : Option (List (String × Value)) :=
  parseChars text.toList

end FaultMesh.Toml
