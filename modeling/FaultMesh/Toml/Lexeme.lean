import FaultMesh.Text.Blank

/-!
# Strings, keys and comments of TOML

Every function takes what it is named for from the start of a text and leaves the rest.
A control character other than the tab stands nowhere, and a carriage return only before
a line feed.
-/

set_option autoImplicit false

namespace FaultMesh.Toml

open FaultMesh.Text (digitValue?)

def isPlain (c : Char) : Bool :=
  c = '\t' || (0x20 ≤ c.toNat && c.toNat ≠ 0x7F)

def isSpace (c : Char) : Bool := c = ' ' || c = '\t'

def skipSpace (text : List Char) : List Char := text.dropWhile isSpace

/-- The rest after the line feed that the text starts with. -/
def newline? : List Char → Option (List Char)
  | '\n' :: rest => some rest
  | '\r' :: '\n' :: rest => some rest
  | _ => none

def skipComment? : List Char → Option (List Char)
  | '#' :: rest =>
    match rest.dropWhile isPlain with
    | [] => some []
    | after => if (newline? after).isSome then some after else none
  | rest => some rest

def takeHex? : Nat → Nat → List Char → Option (Nat × List Char)
  | 0, value, rest => some (value, rest)
  | _ + 1, _, [] => none
  | count + 1, value, c :: rest => do
    let digit ← digitValue? c
    takeHex? count (value * 16 + digit) rest

def scalarValue? (n : Nat) : Option Char :=
  if n < 0xD800 ∨ (0xDFFF < n ∧ n < 0x110000) then some (Char.ofNat n) else none

def takeCode? (count : Nat) (rest : List Char) : Option (Char × List Char) := do
  let (value, rest) ← takeHex? count 0 rest
  let c ← scalarValue? value
  return (c, rest)

def takeEscape? : List Char → Option (Char × List Char)
  | [] => none
  | c :: rest =>
    match c with
    | 'b' => some ('\x08', rest)
    | 't' => some ('\t', rest)
    | 'n' => some ('\n', rest)
    | 'f' => some ('\x0c', rest)
    | 'r' => some ('\r', rest)
    | 'e' => some ('\x1b', rest)
    | '"' => some ('"', rest)
    | '\\' => some ('\\', rest)
    | 'x' => takeCode? 2 rest
    | 'u' => takeCode? 4 rest
    | 'U' => takeCode? 8 rest
    | _ => none

/-- The rest of a string on one line, with fuel for each of its characters. -/
def takeBasic : Nat → List Char → List Char → Option (List Char × List Char)
  | 0, _, _ => none
  | _ + 1, _, [] => none
  | fuel + 1, taken, c :: rest =>
    if c = '"' then some (taken.reverse, rest)
    else if c = '\\' then do
      let (value, rest) ← takeEscape? rest
      takeBasic fuel (value :: taken) rest
    else if isPlain c then takeBasic fuel (c :: taken) rest
    else none

def takeLiteral (text : List Char) : Option (List Char × List Char) :=
  let content := text.takeWhile fun c => c ≠ '\'' && isPlain c
  match text.drop content.length with
  | '\'' :: rest => some (content, rest)
  | _ => none

def skipBlankLines : Nat → List Char → List Char
  | 0, text => text
  | fuel + 1, text =>
    let text := skipSpace text
    match newline? text with
    | some rest => skipBlankLines fuel rest
    | none => text

/-- The end of a string of several lines: three quotes, before which two more may belong
to its content. -/
def closing? (quote : Char) (text : List Char) : Option (Nat × List Char) :=
  let count := (text.takeWhile (· = quote)).length
  if count < 3 then none
  else if 5 < count then none
  else some (count - 3, text.drop count)

/-- The rest of a string of several lines.  A backslash at the end of a line joins it with
what comes after the blanks. -/
def takeLongBasic : Nat → List Char → List Char → Option (List Char × List Char)
  | 0, _, _ => none
  | _ + 1, _, [] => none
  | fuel + 1, taken, c :: rest =>
    if c = '"' then
      match closing? '"' (c :: rest) with
      | some (quotes, rest) => some (taken.reverse ++ List.replicate quotes '"', rest)
      | none =>
        if (c :: rest).take 3 = ['"', '"', '"'] then none
        else takeLongBasic fuel ('"' :: taken) rest
    else if c = '\\' then
      match newline? (skipSpace rest) with
      | some after => takeLongBasic fuel taken (skipBlankLines after.length after)
      | none => do
        let (value, rest) ← takeEscape? rest
        takeLongBasic fuel (value :: taken) rest
    else if isPlain c then takeLongBasic fuel (c :: taken) rest
    else if c = '\n' then takeLongBasic fuel (c :: taken) rest
    else if c = '\r' then
      match rest with
      | '\n' :: rest => takeLongBasic fuel ('\n' :: '\r' :: taken) rest
      | _ => none
    else none

def takeLongLiteral : Nat → List Char → List Char → Option (List Char × List Char)
  | 0, _, _ => none
  | _ + 1, _, [] => none
  | fuel + 1, taken, c :: rest =>
    if c = '\'' then
      match closing? '\'' (c :: rest) with
      | some (quotes, rest) => some (taken.reverse ++ List.replicate quotes '\'', rest)
      | none =>
        if (c :: rest).take 3 = ['\'', '\'', '\''] then none
        else takeLongLiteral fuel ('\'' :: taken) rest
    else if isPlain c ∨ c = '\n' then takeLongLiteral fuel (c :: taken) rest
    else if c = '\r' then
      match rest with
      | '\n' :: rest => takeLongLiteral fuel ('\n' :: '\r' :: taken) rest
      | _ => none
    else none

def dropFirstNewline (text : List Char) : List Char :=
  (newline? text).getD text

/-- A string of any of the four kinds, if one starts here. -/
def takeString? : List Char → Option (Option (List Char × List Char))
  | '"' :: '"' :: '"' :: rest =>
    let rest := dropFirstNewline rest
    some (takeLongBasic (rest.length + 1) [] rest)
  | '\'' :: '\'' :: '\'' :: rest =>
    let rest := dropFirstNewline rest
    some (takeLongLiteral (rest.length + 1) [] rest)
  | '"' :: rest => some (takeBasic (rest.length + 1) [] rest)
  | '\'' :: rest => some (takeLiteral rest)
  | _ => none

def isBareKey (c : Char) : Bool := Text.isAlphanumeric c || c = '_' || c = '-'

def takeKeyPart? : List Char → Option (String × List Char)
  | '"' :: rest =>
    (takeBasic (rest.length + 1) [] rest).map fun (text, rest) => (String.ofList text, rest)
  | '\'' :: rest => (takeLiteral rest).map fun (text, rest) => (String.ofList text, rest)
  | text =>
    let name := text.takeWhile isBareKey
    if name.isEmpty then none else some (String.ofList name, text.dropWhile isBareKey)

/-- A key of one part or more with points between them: the parts before the last one,
the last one, and the rest after blanks. -/
def takeKey? : Nat → List Char → Option (List String × String × List Char)
  | 0, _ => none
  | fuel + 1, text => do
    let (part, rest) ← takeKeyPart? (skipSpace text)
    match skipSpace rest with
    | '.' :: rest =>
      let (path, last, rest) ← takeKey? fuel rest
      return (part :: path, last, rest)
    | rest => return ([], part, rest)

end FaultMesh.Toml
