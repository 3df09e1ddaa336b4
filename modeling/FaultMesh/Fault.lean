import FaultMesh.Datum
import FaultMesh.Definition
import FaultMesh.Fault.Cause
import FaultMesh.Fault.StackTrace

/-!
# Faults

One rendered failure: its messages are the definition's templates with the bound data put
in, once for every locale.  The text of the stack apart, a fault does not change after it
is made.
-/

set_option autoImplicit false

namespace FaultMesh

/-- What the making of a fault takes from the world: the time, as it is written on the
wire, and the stack. -/
structure Moment where
  now : String
  backtrace : String
  deriving DecidableEq, Repr

def defaultLocale : String := "en"

structure Fault where
  code : String
  status : UInt16
  timestamp : String
  messages : OrderedMap String
  data : Data
  cause : Option Cause
  stack : StackTrace

namespace Fault

/-- Name of the entry that holds the text of the cause. -/
def errorKey : String := "Error"

/-- Adds the text of the cause, unless something other than null is bound there. -/
def bindCause (data : Data) : Option Cause → Data
  | none => data
  | some cause =>
    if (data.get? errorKey).all Datum.isNull then data.insert errorKey (.text cause.text)
    else data

def render (moment : Moment) (definition : Definition) (data : Data) (cause : Option Cause) :
    Fault :=
  let data := bindCause data cause
  { code := definition.code
    status := definition.status
    timestamp := moment.now
    messages := definition.messages.mapValues fun template => template.render data
    data
    cause
    stack := .captured moment.backtrace }

/-- A fault of which only code, status and one message are known. -/
def minimal (moment : Moment) (code : String) (status : UInt16) (message : String) : Fault where
  code
  status
  timestamp := moment.now
  messages := .ofList [(defaultLocale, message)]
  data := .empty
  cause := none
  stack := .empty

def component (fault : Fault) : String := Code.component fault.code

/-- Statuses that an HTTP response can have; others are answered as 500. -/
def httpStatus (fault : Fault) : Nat :=
  let status := fault.status.toNat
  if 100 ≤ status ∧ status < 1000 then status else 500

/-- The message for a locale, or else for the default locale, or else the first one. -/
def messageIn (messages : OrderedMap String) (locale : String) : String :=
  (((messages.get? locale).or (messages.get? defaultLocale)).or messages.values.head?).getD ""

def message (fault : Fault) (locale : String) : String :=
  messageIn fault.messages locale

/-- The message in the default locale, or the code where there is none. -/
def display (fault : Fault) : String :=
  let message := fault.message defaultLocale
  if message = "" then fault.code else message

def isStatusGroup (fault : Fault) (group : UInt16) : Bool :=
  fault.status / 100 * 100 == group

def identity (fault : Fault) : Identity := ⟨fault.code, fault.status⟩

/-- The failures behind a fault, the nearest one first. -/
def sources (fault : Fault) : List Link :=
  match fault.cause with
  | some cause => cause.links
  | none => []

/-- The fault as the cause of another one. -/
def asCause (fault : Fault) : Cause :=
  ⟨⟨fault.display, some fault.identity⟩, fault.sources⟩

def forceStack (fault : Fault) : Fault := { fault with stack := fault.stack.force }

end Fault

end FaultMesh
