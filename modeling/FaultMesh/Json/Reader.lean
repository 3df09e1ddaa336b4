import FaultMesh.Json.Node

/-!
# Reading documents

What is wanted of a document is a reader of its nodes.  A reader goes from left to right
and reports the first problem that it meets; lists and objects nest to a depth of 127 in
what is read, to any depth in what is passed over.

A record is written as an object, or as a list of its fields in their order.
-/

set_option autoImplicit false

namespace FaultMesh.Json

/-- Greatest depth of lists and objects that are read. -/
def depthLimit : Nat := 127

def mismatchAt (reason : Schema.Mismatch) (offset : Nat) : Problem :=
  ⟨.mismatch reason, offset⟩

def throwBreak {α : Type} (reason : Break) : Except Problem α := .error reason.reading

def close : Option Break → Except Problem Unit
  | none => .ok ()
  | some reason => .error reason.reading

mutual

/-- Passes over a value: only its grammar matters. -/
def Node.pass : Node → Except Problem Unit
  | .scalar _ _ => .ok ()
  | .broken reason => .error reason.passing
  | .list _ items reason => do
    passItems items
    match reason with
    | none => .ok ()
    | some reason => .error reason.passing
  | .object _ members reason => do
    passMembers members
    match reason with
    | none => .ok ()
    | some reason => .error reason.passing

def passItems : List Node → Except Problem Unit
  | [] => .ok ()
  | item :: items => do
    item.pass
    passItems items

def passMembers : List (Except Problem String × Node) → Except Problem Unit
  | [] => .ok ()
  | (_, value) :: members => do
    value.pass
    passMembers members

end

/-- The number of a numeral that ends at `stop`. -/
def readNumber (numeral : Numeral) (stop : Nat) : Except Problem Number :=
  match numeral.number? with
  | some number => .ok number
  | none => .error ⟨.numberOutOfRange, stop - numeral.surplus⟩

mutual

/-- The value of a node; `depth` lists and objects may still be entered. -/
def Node.datum : Nat → Node → Except Problem Datum
  | _, .scalar .null _ => .ok .null
  | _, .scalar (.boolean value) _ => .ok (.boolean value)
  | _, .scalar (.number numeral) stop => (readNumber numeral stop).map .number
  | _, .scalar (.text content) _ => content.map .text
  | _, .broken reason => throwBreak reason
  | 0, .list start _ _ => .error ⟨.tooDeep, start + 1⟩
  | 0, .object start _ _ => .error ⟨.tooDeep, start + 1⟩
  | depth + 1, .list _ items reason => do
    let values ← dataOfItems depth items
    close reason
    return .list values
  | depth + 1, .object _ members reason => do
    let written ← dataOfMembers depth members
    close reason
    return .map (Entries.ofList written)

def dataOfItems : Nat → List Node → Except Problem (List Datum)
  | _, [] => .ok []
  | depth, item :: items => do
    let value ← item.datum depth
    let values ← dataOfItems depth items
    return value :: values

def dataOfMembers : Nat → List (Except Problem String × Node) →
    Except Problem (List (String × Datum))
  | _, [] => .ok []
  | depth, (key, value) :: members => do
    let key ← key
    let value ← value.datum depth
    let written ← dataOfMembers depth members
    return (key, value) :: written

end

/-! ## Wanted shapes -/

namespace Node

def foundNumber : Number → Schema.Found
  | .whole value _ => .integer value
  | .real value => .real (String.ofList (Number.layout.write value))

def refuse {α : Type} (node : Node) (expected : String) : Except Problem α :=
  match node with
  | .scalar .null stop => .error (mismatchAt (.wrongType .null expected) stop)
  | .scalar (.boolean value) stop =>
    .error (mismatchAt (.wrongType (.boolean value) expected) stop)
  | .scalar (.number numeral) stop => do
    let number ← readNumber numeral stop
    .error (mismatchAt (.wrongType (foundNumber number) expected) stop)
  | .scalar (.text content) stop => do
    let text ← content
    .error (mismatchAt (.wrongType (.text text) expected) stop)
  | .list start _ _ => .error (mismatchAt (.wrongType .sequence expected) start)
  | .object start _ _ => .error (mismatchAt (.wrongType .map expected) start)
  | .broken reason => throwBreak reason

def text : Node → Except Problem String
  | .scalar (.text content) _ => content
  | node => node.refuse "a string"

/-- A whole number below a power of two, called by its name. -/
def unsigned (bits : Nat) (name : String) : Node → Except Problem Nat
  | .scalar (.number numeral) stop => do
    match ← readNumber numeral stop with
    | .whole value _ =>
      if Decimal.FitsUnsigned bits value then return value.toNat
      else .error (mismatchAt (.wrongValue (.integer value) name) stop)
    | .real value =>
      .error (mismatchAt (.wrongType (foundNumber (.real value)) name) stop)
  | node => node.refuse name

def status (node : Node) : Except Problem UInt16 :=
  (node.unsigned 16 "u16").map UInt16.ofNat

def optional {α : Type} (read : Node → Except Problem α) : Node → Except Problem (Option α)
  | .scalar .null _ => .ok none
  | node => (read node).map some

/-- Reads null as the default value. -/
def orDefault {α : Type} [Inhabited α] (read : Node → Except Problem α) (node : Node) :
    Except Problem α :=
  (node.optional read).map (·.getD default)

def foldMembers {σ : Type} (visit : σ → String → Node → Except Problem σ) :
    σ → List (Except Problem String × Node) → Except Problem σ
  | state, [] => .ok state
  | state, (key, value) :: members => do
    let key ← key
    let next ← visit state key value
    foldMembers visit next members

def mapOf {α : Type} (depth : Nat) (read : Node → Except Problem α) :
    Node → Except Problem (OrderedMap α)
  | .object start members reason =>
    if depth = 0 then .error ⟨.tooDeep, start + 1⟩
    else do
      let written ← foldMembers (fun written key value => do
        let value ← read value
        return (key, value) :: written) [] members
      close reason
      return OrderedMap.ofList written.reverse
  | node => node.refuse "a map"

def listOf {α : Type} (read : Node → Except Problem α) : Node → Except Problem (List α)
  | .list _ items reason => do
    let values ← items.mapM read
    close reason
    return values
  | node => node.refuse "a sequence"

def unit : Node → Except Problem Unit
  | .scalar .null _ => .ok ()
  | node => node.refuse "unit"

/-- A map of any values at a depth of one below the top. -/
def data (depth : Nat) : Node → Except Problem Data :=
  mapOf depth (datum (depth - 1))

end Node

/-- How a record is read into a state `σ`: its name, its fields in order with their
readers, and whether a member under another name is an error. -/
structure RecordReader (σ : Type) where
  name : String
  fields : List (String × (σ → Node → Except Problem σ))
  closed : Bool

namespace RecordReader

variable {σ : Type}

def fieldNames (reader : RecordReader σ) : List String :=
  reader.fields.map Prod.fst

/-- Takes in one member; `seen` are the fields that came before it. -/
def visit (reader : RecordReader σ) (state : σ × List String) (key : String) (value : Node) :
    Except Problem (σ × List String) :=
  match List.lookup key reader.fields with
  | none =>
    if reader.closed then .error (mismatchAt (.unknownField key reader.fieldNames) 0)
    else do
      value.pass
      return state
  | some read =>
    if key ∈ state.2 then .error (mismatchAt (.repeatedField key) 0)
    else do
      let next ← read state.1 value
      return (next, key :: state.2)

def endOfList (rest : List Node) (reason : Option Break) : Except Problem Unit :=
  match rest, reason with
  | [], none => .ok ()
  | [], some reason =>
    if reason.reading.kind = .endInList then .error reason.reading
    else if reason.reading.kind = .trailingComma then .error reason.reading
    else .error { reason.reading with kind := .trailingCharacters }
  | _ :: _, _ => .error ⟨.trailingCharacters, 0⟩

/-- Takes in the items of a list for the fields in order; a field without an item is left. -/
def visitItems (reason : Option Break) :
    List (String × (σ → Node → Except Problem σ)) → List Node → σ × List String →
      Except Problem (σ × List String)
  | [], rest, state => do
    endOfList rest reason
    return state
  | _ :: _, [], state => do
    close reason
    return state
  | (name, read) :: fields, item :: items, (state, seen) => do
    let next ← read state item
    visitItems reason fields items (next, name :: seen)

/-- The state after all fields of a record, and the fields that it has. -/
def read (reader : RecordReader σ) (depth : Nat) (start : σ) :
    Node → Except Problem (σ × List String)
  | .object offset members reason =>
    if depth = 0 then .error ⟨.tooDeep, offset + 1⟩
    else do
      let state ← Node.foldMembers reader.visit (start, []) members
      close reason
      return state
  | .list offset items reason =>
    if depth = 0 then .error ⟨.tooDeep, offset + 1⟩
    else visitItems reason reader.fields items (start, [])
  | node => node.refuse ("struct " ++ reader.name)

end RecordReader

def Document.read {α : Type} (document : Document) (reader : Node → Except Problem α) :
    Except Problem α := do
  let value ← reader document.root
  match document.excess with
  | none => return value
  | some problem => .error problem

def Document.datum (document : Document) : Except Problem Datum :=
  document.read (Node.datum depthLimit)

def readDatum (octets : List UInt8) : Except Problem Datum :=
  (parse octets).datum

end FaultMesh.Json
