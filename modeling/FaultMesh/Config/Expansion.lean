import FaultMesh.Environment
import FaultMesh.Text.Blank
import FaultMesh.Text.Cut

/-!
# Expansion of placeholders

A placeholder between double braces names a variable of the environment and may give a
text to fall back on.  Expansion is one pass over the lines of a text: lines of comment stay
as they are, and text that was put in is not looked at again.
-/

set_option autoImplicit false

namespace FaultMesh

inductive ExpansionError where
  | missingVariable (name : String)
  | unsupportedScope (key : String)
  deriving DecidableEq, Repr

def ExpansionError.message : ExpansionError → String
  | .missingVariable name => s!"environment variable not found: `{name}`"
  | .unsupportedScope key =>
    "only variables scoped with 'env.' are supported: " ++ s!"`{key}`"

namespace Expansion

structure Placeholder where
  key : String
  fallback : Option String
  deriving DecidableEq, Repr

def opening : List Char := ['\x7b', '\x7b']

def closing : List Char := ['\x7d', '\x7d']

def isKeyChar (c : Char) : Bool := Text.isAlphanumeric c || c = '_' || c = '.'

def takeFallback? (text : List Char) : Option (String × List Char) := do
  let text ← Text.after? ['|'] text
  let text ← Text.after? "default(\"".toList (Text.trimStart text)
  let rest ← Text.after? "\")".toList (text.dropWhile (· ≠ '"'))
  return (String.ofList (text.takeWhile (· ≠ '"')), rest)

def takeClose? (text : List Char) : Option (Option String × List Char) :=
  match takeFallback? text with
  | some (fallback, rest) =>
    (Text.after? closing (Text.trimStart rest)).map fun rest => (some fallback, rest)
  | none => (Text.after? closing text).map fun rest => (none, rest)

def takePlaceholder? (text : List Char) : Option (Placeholder × List Char) := do
  let text := Text.trimStart (← Text.after? opening text)
  let key := text.takeWhile isKeyChar
  if key.isEmpty then none
  else do
    let (fallback, rest) ← takeClose? (Text.trimStart (text.dropWhile isKeyChar))
    return (⟨String.ofList key, fallback⟩, rest)

theorem length_after?_le {wanted text rest : List Char} (h : Text.after? wanted text = some rest) :
    rest.length ≤ text.length := by
  have := Text.after?_eq_some.1 h
  simp [this]

theorem length_dropWhile_le (p : Char → Bool) (text : List Char) :
    (text.dropWhile p).length ≤ text.length :=
  (List.dropWhile_suffix p).length_le

theorem length_trimStart_le (text : List Char) : (Text.trimStart text).length ≤ text.length :=
  length_dropWhile_le Text.isBlank text

theorem length_takeFallback?_le {text rest : List Char} {fallback : String}
    (h : takeFallback? text = some (fallback, rest)) : rest.length ≤ text.length := by
  simp only [takeFallback?, Option.bind_eq_bind, Option.bind_eq_some_iff, Option.pure_def,
    Option.some.injEq, Prod.mk.injEq] at h
  obtain ⟨first, h₁, second, h₂, third, h₃, -, rfl⟩ := h
  have := length_after?_le h₁
  have := length_after?_le h₂
  have := length_after?_le h₃
  have := length_trimStart_le first
  have := length_dropWhile_le (· ≠ '"') second
  omega

theorem length_takeClose?_le {text rest : List Char} {fallback : Option String}
    (h : takeClose? text = some (fallback, rest)) : rest.length ≤ text.length := by
  unfold takeClose? at h
  split at h
  next value middle found =>
    simp only [Option.map_eq_some_iff, Prod.mk.injEq] at h
    obtain ⟨tail, closed, -, rfl⟩ := h
    have := length_takeFallback?_le found
    have := length_after?_le closed
    have := length_trimStart_le middle
    omega
  next =>
    simp only [Option.map_eq_some_iff, Prod.mk.injEq] at h
    obtain ⟨tail, closed, -, rfl⟩ := h
    exact length_after?_le closed

theorem length_takePlaceholder?_lt {text rest : List Char} {placeholder : Placeholder}
    (h : takePlaceholder? text = some (placeholder, rest)) : rest.length < text.length := by
  simp only [takePlaceholder?, Option.bind_eq_bind, Option.bind_eq_some_iff, Option.pure_def] at h
  obtain ⟨body, opened, h⟩ := h
  split at h
  · cases h
  · simp only [Option.bind_eq_some_iff, Option.some.injEq, Prod.mk.injEq] at h
    obtain ⟨⟨fallback, tail⟩, closed, -, rfl⟩ := h
    have := length_takeClose?_le closed
    have := length_trimStart_le body
    have := length_dropWhile_le isKeyChar (Text.trimStart body)
    have := length_trimStart_le ((Text.trimStart body).dropWhile isKeyChar)
    have width := congrArg List.length (Text.after?_eq_some.1 opened)
    simp only [opening, List.length_append, List.length_cons, List.length_nil] at width
    simp only
    omega

/-- A character that stands for itself, or a placeholder. -/
inductive Piece where
  | literal (c : Char)
  | placeholder (placeholder : Placeholder)
  deriving DecidableEq, Repr

/-- The pieces of a line: the leftmost placeholders, and the characters beside them. -/
def pieces (text : List Char) : List Piece :=
  match text with
  | [] => []
  | c :: others =>
    match _found : takePlaceholder? (c :: others) with
    | some (placeholder, rest) => .placeholder placeholder :: pieces rest
    | none => .literal c :: pieces others
termination_by text.length
decreasing_by
  · exact length_takePlaceholder?_lt _found
  · simp

def scopedName? (key : String) : Option String :=
  match Text.splitOnce? '.' key.toList with
  | some (scope, name) =>
    if scope = "env".toList ∧ name ≠ [] ∧ '.' ∉ name then some (String.ofList name) else none
  | none => none

def expandPlaceholder (environment : Environment) (placeholder : Placeholder) :
    Except ExpansionError (List Char) :=
  match scopedName? placeholder.key with
  | none => .error (.unsupportedScope placeholder.key)
  | some name =>
    match environment.text? name, placeholder.fallback with
    | some value, _ => .ok value.toList
    | none, some fallback => .ok fallback.toList
    | none, none => .error (.missingVariable name)

def expandPiece (environment : Environment) : Piece → Except ExpansionError (List Char)
  | .literal c => .ok [c]
  | .placeholder placeholder => expandPlaceholder environment placeholder

/-- Expands pieces up to the first that cannot be. -/
def expandPieces (environment : Environment) : List Piece → Except ExpansionError (List Char)
  | [] => .ok []
  | piece :: rest => do
    let text ← expandPiece environment piece
    let others ← expandPieces environment rest
    return text ++ others

def isComment (line : List Char) : Bool :=
  (Text.trimStart line).head? = some '#'

def expandLine (environment : Environment) (line : List Char) :
    Except ExpansionError (List Char) :=
  if isComment line then .ok line else expandPieces environment (pieces line)

def expandLines (environment : Environment) :
    List (List Char) → Except ExpansionError (List (List Char))
  | [] => .ok []
  | line :: rest => do
    let line ← expandLine environment line
    let others ← expandLines environment rest
    return line :: others

/-- Expands the lines of a text and joins them; a last line end is kept. -/
def expandChars (environment : Environment) (text : List Char) :
    Except ExpansionError (List Char) := do
  let lines ← expandLines environment (Text.lines text)
  return List.intercalate ['\n'] lines ++ if text.getLast? = some '\n' then ['\n'] else []

def expand (environment : Environment) (text : String) : Except ExpansionError String :=
  (expandChars environment text.toList).map String.ofList

end Expansion

end FaultMesh
