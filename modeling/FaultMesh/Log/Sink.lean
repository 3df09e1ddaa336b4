import FaultMesh.Json.Writer
import FaultMesh.Log.Filter
import FaultMesh.Text.Quoted

/-!
# Log lines

How events are written down: as lines for people, with the fields behind the message, or
as one JSON object each.
-/

set_option autoImplicit false

namespace FaultMesh.Log

structure Sink where
  filter : Filter
  json : Bool
  deriving DecidableEq, Repr

def Value.plain : Value → String
  | .shown text => text
  | .quoted text => Text.quoted text
  | .number value => toString value
  | .flag value => toString value

def Event.plain (event : Event) : String :=
  let fields := event.fields.map fun (name, value) => " " ++ name ++ "=" ++ value.plain
  event.level.name ++ " " ++ event.target ++ ": " ++ event.message ++ String.join fields

def Value.datum : Value → Datum
  | .shown text => .text text
  | .quoted text => .text text
  | .number value => .ofNat value
  | .flag value => .boolean value

def Event.datum (event : Event) : Datum :=
  .map
    [("level", .text event.level.name),
     ("fields", .map (("message", .text event.message) ::
       event.fields.map fun (name, value) => (name, value.datum))),
     ("target", .text event.target)]

namespace Sink

def write (sink : Sink) (event : Event) : String :=
  if sink.json then Json.render event.datum else event.plain

def lines (sink : Sink) (events : List Event) : List String :=
  (events.filter sink.filter.admits).map sink.write

end Sink

end FaultMesh.Log
