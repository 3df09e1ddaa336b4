import FaultMesh.Service.Route

/-!
# Services

A service is a list of routes in layers.  A layer is put around all routes: it keeps
requests away from them, or puts something beside the requests that it lets pass.  A path
that no route takes is not found, and a method that no route of its path takes is not
allowed.
-/

set_option autoImplicit false

namespace FaultMesh

inductive Layer where
  | gate (gate : PathGate)
  | api (settings : ApiSettings)
  | context (settings : ContextSettings)

namespace Layer

def debugEvent (request : Http.Request) : Log.Event where
  level := .debug
  target := "emf_server::context"
  message := "request served in debug mode"
  fields := [("path", .shown request.target.path)]

/-- The answer to a request with a parameter that was refused. -/
def refuse (ambient : Ambient) (scope : Scope) (reason : ParameterError) : Outcome :=
  match scope.reporter with
  | none => (.plain 400 reason.message, [])
  | some reporter =>
    let (fault, events) :=
      reporter.builtin ambient .invalidParametersFailure .empty [.plain reason.message]
    (reporter.respond fault, events)

def guarded (gate : PathGate) (handler : Handler) : Handler := fun ambient scope =>
  match gate.verdict scope.parameters with
  | .pass => handler ambient scope
  | .notFound => (.bare 404, [])
  | .refused reason => refuse ambient scope reason

def withApi (api : ApiSettings) (handler : Handler) : Handler := fun ambient scope =>
  handler ambient { scope with api := some api }

def withContext (settings : ContextSettings) (handler : Handler) : Handler :=
  fun ambient scope =>
    let reporter := settings.reporterFor scope.request
    let seen :=
      if reporter.context.debug then Log.admitted ambient.verbosity [debugEvent scope.request]
      else []
    let (response, events) := handler ambient { scope with reporter := some reporter }
    (response, seen ++ events)

def around : Layer → Handler → Handler
  | .gate check => guarded check
  | .api settings => withApi settings
  | .context settings => withContext settings

end Layer

/-- Routes, and the layers around them with the innermost one first. -/
structure Service where
  routes : List Route
  layers : List Layer

namespace Service

def health : Route := ⟨.ofString "/health", "GET", fun _ _ => (.plain 200 "ok", [])⟩

def ofConfig (config : Config) (registry : Registry) (routes : List Route) :
    Except Regex.Pattern.Flaw Service :=
  (PathGate.ofSettings config.api).map fun gate =>
    ⟨health :: routes,
      [.gate gate, .api config.api, .context (.ofConfig config registry)]⟩

/-- The address of a configuration, or else every one at port 3000. -/
def listenAddress (config : Config) : SocketAddress :=
  config.server.listenAddress.getD (.v4 (.ofValue 0) 3000)

def notFound : Handler := fun _ _ => (.bare 404, [])

def allowedBy (route : Route) : List String :=
  if route.method = "GET" then ["GET", "HEAD"] else [route.method]

def notAllowed : Handler := fun _ _ => (.bare 405, [])

/-- The route of a method; the one of `GET` also takes `HEAD`. -/
def routeOf? (method : String) (routes : List Route) : Option Route :=
  (routes.find? fun route => route.method == method) <|>
    if method = "HEAD" then routes.find? fun route => route.method == "GET" else none

/-- The routes of the foremost pattern that takes a path, and the parameters of the path. -/
def routesOf? (service : Service) (path : String) :
    Option (List Route × List (String × List Char)) := do
  let taking := (service.routes.map Route.pattern).filter fun pattern =>
    (pattern.match? path).isSome
  let pattern ← PathPattern.foremost? taking
  let parameters ← pattern.match? path
  return (service.routes.filter fun route => route.pattern = pattern, parameters)

def layered (service : Service) (handler : Handler) : Handler :=
  service.layers.foldl (fun handler layer => layer.around handler) handler

def answer (service : Service) (ambient : Ambient) (request : Http.Request) : Outcome :=
  match service.routesOf? request.target.path with
  | none => service.layered notFound ambient (.ofRequest request (.ok []))
  | some (routes, written) =>
    let scope := Scope.ofRequest request (PathParameters.decode written)
    match routeOf? request.method routes with
    | some route => service.layered route.handler ambient scope
    | none =>
      let (response, events) := service.layered notAllowed ambient scope
      (response.withField "allow" (",".intercalate (routes.flatMap allowedBy)), events)

/-- The answer to a request; the one to `HEAD` has no body. -/
def respond (service : Service) (ambient : Ambient) (request : Http.Request) : Outcome :=
  let (response, events) := service.answer ambient request
  (if request.method = "HEAD" then { response with body := "" } else response, events)

end Service

end FaultMesh
