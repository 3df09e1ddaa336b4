import FaultMesh.Text.Blank
import FaultMesh.Text.Cut
import FaultMesh.Toml.Value

/-!
# Bare scalars of TOML

Numbers, booleans and dates as they stand between delimiters.  Underscores may stand
between two digits.  A real that is too large for a double has no value.
-/

set_option autoImplicit false

namespace FaultMesh.Toml

open FaultMesh.Text (isDigit decimalValue)

def plainDigits? (isDigitOf : Char → Bool) (text : List Char) : Option (List Char) :=
  let groups := List.splitOn '_' text
  if groups.all fun group => !group.isEmpty && group.all isDigitOf then some groups.flatten
  else none

def valueInBase (base : Nat) (digits : List Char) : Nat :=
  digits.foldl (fun n c => n * base + Text.hexValue c) 0

def inBase? (base : Nat) (text : List Char) : Option Nat :=
  (plainDigits? (fun c => Text.isHexDigit c && Text.hexValue c < base) text).map (valueInBase base)

def decimalDigits? (text : List Char) : Option (List Char) := do
  let digits ← plainDigits? isDigit text
  match digits with
  | '0' :: _ :: _ => none
  | digits => some digits

/-- Splits off a sign; true stands for minus. -/
def splitSign : List Char → Bool × List Char
  | '+' :: rest => (false, rest)
  | '-' :: rest => (true, rest)
  | text => (false, text)

def integer? (text : List Char) : Option Int :=
  match text with
  | '0' :: 'x' :: digits => (inBase? 16 digits).map Int.ofNat
  | '0' :: 'o' :: digits => (inBase? 8 digits).map Int.ofNat
  | '0' :: 'b' :: digits => (inBase? 2 digits).map Int.ofNat
  | _ =>
    let (negative, magnitude) := splitSign text
    (decimalDigits? magnitude).map fun digits =>
      if negative then -(decimalValue digits : Int) else decimalValue digits

def power? (text : List Char) : Option Int :=
  let (negative, magnitude) := splitSign text
  (plainDigits? isDigit magnitude).map fun digits =>
    if negative then -(decimalValue digits : Int) else decimalValue digits

def realParts? (magnitude : List Char) : Option (List Char × List Char × Int) := do
  let (mantissa, power) ←
    match Text.splitOnce? 'e' (magnitude.map Text.lowerAscii) with
    | some (mantissa, power) => (power? power).map fun power => (mantissa, some power)
    | none => some (magnitude, none)
  match Text.splitOnce? '.' mantissa, power with
  | some (whole, places), power =>
    let whole ← decimalDigits? whole
    let places ← plainDigits? isDigit places
    return (whole, places, power.getD 0)
  | none, some power =>
    let whole ← decimalDigits? mantissa
    return (whole, [], power)
  | none, none => none

/-- A real, whose value may be missing for its size. -/
def real? (text : List Char) : Option (Option Double) :=
  let (negative, magnitude) := splitSign text
  if magnitude = ['i', 'n', 'f'] then some (some (.infinite negative))
  else if magnitude = ['n', 'a', 'n'] then some (some .notANumber)
  else do
    let (whole, places, power) ← realParts? magnitude
    return (Binary64.ofDecimal? negative (decimalValue (whole ++ places))
      (power - places.length)).map .finite

def takeNumber? (count : Nat) (text : List Char) : Option (Nat × List Char) :=
  let digits := text.take count
  if digits.length = count ∧ digits.all isDigit then some (decimalValue digits, text.drop count)
  else none

def takeChar? (c : Char) : List Char → Option (List Char)
  | [] => none
  | d :: rest => if d = c then some rest else none

def isLeap (year : Nat) : Bool :=
  year % 4 == 0 && (year % 100 != 0 || year % 400 == 0)

def daysOf (year month : Nat) : Nat :=
  if month = 2 then (if isLeap year then 29 else 28)
  else if month = 4 ∨ month = 6 ∨ month = 9 ∨ month = 11 then 30
  else 31

def padded (count n : Nat) : List Char :=
  let digits := Nat.toDigits 10 n
  List.replicate (count - digits.length) '0' ++ digits

def takeDate? (text : List Char) : Option (List Char × List Char) := do
  let (year, rest) ← takeNumber? 4 text
  let rest ← takeChar? '-' rest
  let (month, rest) ← takeNumber? 2 rest
  let rest ← takeChar? '-' rest
  let (day, rest) ← takeNumber? 2 rest
  if 1 ≤ month ∧ month ≤ 12 ∧ 1 ≤ day ∧ day ≤ daysOf year month then
    return (padded 4 year ++ '-' :: padded 2 month ++ '-' :: padded 2 day, rest)
  else none

/-- Seconds with their fraction, of which nine digits count; they may be left out. -/
def takeSeconds? : List Char → Option (List Char × List Char)
  | ':' :: rest => do
    let (second, rest) ← takeNumber? 2 rest
    if 60 < second then none
    else
      match rest with
      | '.' :: rest =>
        let digits := rest.takeWhile isDigit
        if digits.isEmpty then none
        else
          let kept := ((digits.take 9).reverse.dropWhile (· = '0')).reverse
          return (':' :: padded 2 second ++ (if kept.isEmpty then [] else '.' :: kept),
            rest.dropWhile isDigit)
      | rest => return (':' :: padded 2 second, rest)
  | rest => some ([':', '0', '0'], rest)

/-- A time of day at the start of a text, as it is written again. -/
def takeTime? (text : List Char) : Option (List Char × List Char) := do
  let (hour, rest) ← takeNumber? 2 text
  let rest ← takeChar? ':' rest
  let (minute, rest) ← takeNumber? 2 rest
  let (seconds, rest) ← takeSeconds? rest
  if hour ≤ 23 ∧ minute ≤ 59 then
    return (padded 2 hour ++ ':' :: padded 2 minute ++ seconds, rest)
  else none

def offset? : List Char → Option (List Char)
  | [] => some []
  | ['Z'] => some ['Z']
  | ['z'] => some ['Z']
  | sign :: rest => do
    if sign ≠ '+' ∧ sign ≠ '-' then none
    let (hours, rest) ← takeNumber? 2 rest
    let rest ← takeChar? ':' rest
    let (minutes, rest) ← takeNumber? 2 rest
    if rest = [] ∧ hours ≤ 23 ∧ minutes ≤ 59 then
      let sign := if hours = 0 ∧ minutes = 0 then '+' else sign
      return sign :: padded 2 hours ++ ':' :: padded 2 minutes
    else none

def moment? (text : List Char) : Option (List Char) :=
  match takeDate? text with
  | some (date, []) => some date
  | some (date, c :: rest) => do
    if c ≠ 'T' ∧ c ≠ 't' ∧ c ≠ ' ' then none
    let (time, rest) ← takeTime? rest
    let offset ← offset? rest
    return date ++ 'T' :: time ++ offset
  | none => do
    let (time, rest) ← takeTime? text
    if rest = [] then return time else none

def scalar? (text : List Char) : Option Value :=
  if text = ['t', 'r', 'u', 'e'] then some (.boolean true)
  else if text = ['f', 'a', 'l', 's', 'e'] then some (.boolean false)
  else
    match integer? text with
    | some value => some (.integer value)
    | none =>
      match real? text with
      | some value => some (.real value)
      | none => (moment? text).map fun text => .moment (String.ofList text)

end FaultMesh.Toml
