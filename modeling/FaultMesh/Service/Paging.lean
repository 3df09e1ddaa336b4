import FaultMesh.Config
import FaultMesh.Decimal.Integer
import FaultMesh.Reporter
import FaultMesh.Service.Parameter
import FaultMesh.Url.Form

/-!
# Paging

The stretch of a list that a query asks for.  Of a repeated parameter the last value
counts; an empty value is as good as none, and a limit of zero as good as no limit.  The
limit is looked at before the offset.
-/

set_option autoImplicit false

namespace FaultMesh

structure Paging where
  limit : Nat
  offset : Nat
  deriving DecidableEq, Repr

namespace Paging

def lastValue? (name : String) (pairs : List (String × String)) : Option String :=
  pairs.reverse.lookup name

/-- The last value of a parameter, unless it is empty. -/
def value? (name : String) (pairs : List (String × String)) : Option String :=
  (lastValue? name pairs).filter (· ≠ "")

def readInteger (parameter value : String) : Except ParameterError Int :=
  match Decimal.readSigned 64 value.toList with
  | .ok number => .ok number
  | .error _ => .error (.notAnInteger parameter value)

/-- The limit that is asked for, where zero asks for none. -/
def readLimit (api : ApiSettings) (value : Option String) : Except ParameterError Nat :=
  match value with
  | none => .ok 0
  | some value => do
    let number ← readInteger "limit" value
    if 0 ≤ number ∧ number ≤ api.maxLimit then return number.toNat
    else .error (.limitOutOfRange number api.maxLimit)

def readOffset (value : Option String) : Except ParameterError Nat :=
  match value with
  | none => .ok 0
  | some value => do
    let number ← readInteger "offset" value
    if 0 ≤ number then return number.toNat else .error (.negativeOffset number)

def read (api : ApiSettings) (query : String) : Except ParameterError Paging := do
  let pairs := Form.parse query
  let limit ← readLimit api (value? "limit" pairs)
  let offset ← readOffset (value? "offset" pairs)
  return ⟨if limit = 0 then api.defaultLimit else limit, offset⟩

def refuse (reporter : Reporter) (ambient : Ambient) (reason : ParameterError) :
    Fault × List Log.Event :=
  reporter.builtin ambient .queryParameterInvalid
    (.ofList [("Param", .text reason.parameter)]) [.plain reason.message]

/-- The paging of a query, or the fault that answers it. -/
def ofQuery (reporter : Reporter) (ambient : Ambient) (api : ApiSettings)
    (query : Option String) : Except (Fault × List Log.Event) Paging :=
  (read api (query.getD "")).mapError (refuse reporter ambient)

def slice {α : Type} (paging : Paging) (items : List α) : List α :=
  (items.drop paging.offset).take paging.limit

end Paging

end FaultMesh
