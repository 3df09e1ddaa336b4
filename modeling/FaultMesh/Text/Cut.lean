/-!
# Cutting text

Lines and separators over lists of characters.  A line ends at a line feed; a carriage
return directly before that line feed belongs to the terminator, and the empty rest
after a last terminator is no line.
-/

set_option autoImplicit false

namespace FaultMesh.Text

def splitOnce? (separator : Char) : List Char → Option (List Char × List Char)
  | [] => none
  | c :: rest =>
    if c = separator then some ([], rest)
    else (splitOnce? separator rest).map fun (before, after) => (c :: before, after)

def before (separator : Char) (text : List Char) : List Char :=
  text.takeWhile (· ≠ separator)

/-- Whether a text starts at some position of another. -/
def containsInfix (needle : List Char) : List Char → Bool
  | [] => needle.isEmpty
  | c :: rest => needle.isPrefixOf (c :: rest) || containsInfix needle rest

def after? : List Char → List Char → Option (List Char)
  | [], text => some text
  | _ :: _, [] => none
  | a :: wanted, b :: text => if a = b then after? wanted text else none

theorem after?_eq_some {wanted text rest : List Char} :
    after? wanted text = some rest ↔ text = wanted ++ rest := by
  induction wanted generalizing text with
  | nil => simp [after?]
  | cons a wanted ih =>
    cases text with
    | nil => simp [after?]
    | cons b text =>
      by_cases h : a = b
      · subst h
        simp [after?, ih]
      · simp [after?, h, Ne.symm h]

/-- A finished line without the carriage return of its terminator; the line is reversed. -/
def finishLine : List Char → List Char
  | '\r' :: line => line.reverse
  | line => line.reverse

/-- Lines of a text whose first line has already begun with the reversed `line`. -/
def linesFrom (line : List Char) : List Char → List (List Char)
  | [] => if line.isEmpty then [] else [line.reverse]
  | c :: rest =>
    if c = '\n' then finishLine line :: linesFrom [] rest else linesFrom (c :: line) rest

def lines (text : List Char) : List (List Char) :=
  linesFrom [] text

end FaultMesh.Text
