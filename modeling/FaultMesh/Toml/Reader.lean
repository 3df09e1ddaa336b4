import FaultMesh.OrderedMap
import FaultMesh.Toml.Value

/-!
# Reading TOML values

What is wanted of a value is a function that gives it or says why the value is none.  A
record is a table of known keys, or a list of its fields in their order, where items
beyond the last field do not matter.
-/

set_option autoImplicit false

namespace FaultMesh.Toml

open FaultMesh.Schema (Mismatch Found)
open FaultMesh.Decimal (FitsSigned FitsUnsigned)

namespace Value

def mismatch (expected : String) : Value → Mismatch
  | .text value => .wrongType (.text value) expected
  | .integer value =>
    if FitsSigned 64 value ∨ FitsUnsigned 64 value then .wrongType (.integer value) expected
    else if FitsSigned 128 value ∨ FitsUnsigned 128 value then
      .wrongType (.wideInteger value) expected
    else .refused "integer number overflowed"
  | .real (some value) => .wrongType (.real value.render) expected
  | .real none => .refused "floating-point number overflowed"
  | .boolean value => .wrongType (.boolean value) expected
  | .moment _ => .wrongType .map expected
  | .list _ => .wrongType .sequence expected
  | .table _ => .wrongType .map expected

def textAs (expected : String) : Value → Except Mismatch String
  | .text value => .ok value
  | value => .error (value.mismatch expected)

def asText : Value → Except Mismatch String := textAs "a string"

def asBoolean : Value → Except Mismatch Bool
  | .boolean value => .ok value
  | value => .error (value.mismatch "a boolean")

def asUnsigned (bits : Nat) (name : String) : Value → Except Mismatch Nat
  | .integer value =>
    if FitsUnsigned bits value then .ok value.toNat
    else if FitsSigned 64 value ∨ FitsUnsigned 64 value then
      .error (.wrongValue (.integer value) name)
    else .error ((Value.integer value).mismatch name)
  | value => .error (value.mismatch name)

def readEntries {α : Type} (read : Value → Except Mismatch α) :
    List (String × Value) → Except Mismatch (List (String × α))
  | [] => .ok []
  | (key, value) :: entries => do
    let value ← read value
    let rest ← readEntries read entries
    return (key, value) :: rest

def asMap {α : Type} (read : Value → Except Mismatch α) :
    Value → Except Mismatch (OrderedMap α)
  | .table entries => (readEntries read entries).map OrderedMap.ofList
  | value => .error (value.mismatch "a map")

mutual

def inRange : Value → Bool
  | .integer value => FitsSigned 64 value
  | .real value => value.isSome
  | .list items => itemsInRange items
  | .table entries => entriesInRange entries
  | _ => true

def itemsInRange : List Value → Bool
  | [] => true
  | item :: items => inRange item && itemsInRange items

def entriesInRange : List (String × Value) → Bool
  | [] => true
  | (_, value) :: entries => inRange value && entriesInRange entries

end

mutual

def plain : Value → Value
  | .moment value => .text value
  | .list items => .list (plainItems items)
  | .table entries => .table (plainEntries entries)
  | value => value

def plainItems : List Value → List Value
  | [] => []
  | item :: items => plain item :: plainItems items

def plainEntries : List (String × Value) → List (String × Value)
  | [] => []
  | (key, value) :: entries => (key, plain value) :: plainEntries entries

end

end Value

inductive Presence where
  | required
  | requiredInList
  | optional
  deriving DecidableEq, Repr

structure Field (σ : Type) where
  name : String
  presence : Presence
  read : σ → Value → Except Mismatch σ

structure RecordReader (σ : Type) where
  name : String
  fields : List (Field σ)

namespace RecordReader

variable {σ : Type}

def fieldNames (reader : RecordReader σ) : List String :=
  reader.fields.map Field.name

def visitEntries (reader : RecordReader σ) : List (String × Value) → σ → Except Mismatch σ
  | [], state => .ok state
  | (key, value) :: entries, state =>
    match reader.fields.find? fun field => field.name == key with
    | none => .error (.unknownField key reader.fieldNames)
    | some field => do
      let state ← field.read state value
      reader.visitEntries entries state

def missing? (reader : RecordReader σ) (keys : List String) : Option String :=
  (reader.fields.find? fun field =>
    field.presence = .required ∧ field.name ∉ keys).map Field.name

def visitItems (reader : RecordReader σ) (index : Nat) :
    List (Field σ) → List Value → σ → Except Mismatch σ
  | [], _, state => .ok state
  | field :: fields, [], state =>
    if field.presence = .optional then reader.visitItems (index + 1) fields [] state
    else .error (.wrongLength index
      s!"struct {reader.name} with {reader.fields.length} elements")
  | field :: fields, item :: items, state => do
    let state ← field.read state item
    reader.visitItems (index + 1) fields items state

def read (reader : RecordReader σ) (start : σ) : Value → Except Mismatch σ
  | .table entries => do
    let state ← reader.visitEntries entries start
    match reader.missing? (entries.map Prod.fst) with
    | some name => .error (.missingField name)
    | none => return state
  | .list items => reader.visitItems 0 reader.fields items start
  | value => .error (value.mismatch ("struct " ++ reader.name))

end RecordReader

end FaultMesh.Toml
