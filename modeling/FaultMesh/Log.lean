/-!
# Log events

What a service reports about itself while it works.  An event names its level, the part
of the service that it comes from, its message and its fields in order.  Verbosity says
up to which level events are looked at; an event beyond it is not even put together.
-/

set_option autoImplicit false

namespace FaultMesh

/-- Levels, from the gravest to the most detailed. -/
inductive Level where
  | error
  | warn
  | info
  | debug
  | trace
  deriving DecidableEq, Repr

namespace Level

def rank : Level → Nat
  | .error => 1
  | .warn => 2
  | .info => 3
  | .debug => 4
  | .trace => 5

def name : Level → String
  | .error => "ERROR"
  | .warn => "WARN"
  | .info => "INFO"
  | .debug => "DEBUG"
  | .trace => "TRACE"

end Level

inductive Verbosity where
  | off
  | upTo (level : Level)
  deriving DecidableEq, Repr

def Verbosity.admits : Verbosity → Level → Bool
  | .off, _ => false
  | .upTo most, level => level.rank ≤ most.rank

namespace Log

inductive Value where
  | shown (text : String)
  | quoted (text : String)
  | number (value : Nat)
  | flag (value : Bool)
  deriving DecidableEq, Repr

def Value.text : Value → String
  | .shown text => text
  | .quoted text => text
  | .number value => toString value
  | .flag value => toString value

structure Event where
  level : Level
  target : String
  message : String
  fields : List (String × Value)
  deriving DecidableEq, Repr

def admitted (verbosity : Verbosity) (events : List Event) : List Event :=
  events.filter fun event => verbosity.admits event.level

end Log

end FaultMesh
