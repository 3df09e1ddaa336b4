import FaultMesh.Service.Context
import FaultMesh.Service.Paging
import FaultMesh.Service.PathGate
import FaultMesh.Service.Pattern
import FaultMesh.Url.Percent

/-!
# Routes

A route answers the requests of one method whose path takes its pattern.  Its handler gets
the request in its scope: with the parameters of the path, and with what the layers around
the route have put there.
-/

set_option autoImplicit false

namespace FaultMesh

structure Scope where
  request : Http.Request
  parameters : PathParameters
  api : Option ApiSettings
  reporter : Option Reporter

/-- A response, and what was logged on the way to it. -/
abbrev Outcome := Http.Response × List Log.Event

abbrev Handler := Ambient → Scope → Outcome

structure Route where
  pattern : PathPattern
  method : String
  handler : Handler

namespace PathParameters

/-- Decodes the parameters of a path in order. -/
def decode : List (String × List Char) → PathParameters
  | [] => .ok []
  | (name, written) :: rest =>
    match Text.Utf8.decode? (Percent.decodeText written) with
    | none => .error name
    | some value => (decode rest).map ((name, value) :: ·)

end PathParameters

namespace Scope

def ofRequest (request : Http.Request) (parameters : PathParameters) : Scope :=
  ⟨request, parameters, none, none⟩

def withoutReporter : Http.Response := .plain 500 "error context is not installed"

def withoutApi : Http.Response :=
  .plain 500 ("Missing request extension: Extension of type `emf_config::api::ApiConfig` was " ++
    "not found. Perhaps you forgot to add it? See `axum::Extension`.")

def withReporter (scope : Scope) (next : Reporter → Outcome) : Outcome :=
  match scope.reporter with
  | some reporter => next reporter
  | none => (withoutReporter, [])

def withParameters (scope : Scope) (next : List (String × String) → Outcome) : Outcome :=
  match scope.parameters with
  | .ok parameters => next parameters
  | .error name => (.plain 400 s!"Invalid UTF-8 in `{name}`", [])

def withPaging (scope : Scope) (ambient : Ambient) (next : Paging → Outcome) : Outcome :=
  match scope.api with
  | none => (withoutApi, [])
  | some api =>
    scope.withReporter fun reporter =>
      match Paging.ofQuery reporter ambient api scope.request.target.query with
      | .ok paging => next paging
      | .error (fault, events) => (reporter.respond fault, events)

end Scope

end FaultMesh
