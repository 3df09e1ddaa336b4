import FaultMesh.Config
import FaultMesh.Http.Message
import FaultMesh.Reporter
import FaultMesh.Url.Form

/-!
# Contexts of requests

What a reporter has to know is read off the request that it works for.  The locale is the
primary subtag of the language that is asked for first, and debug mode is on for every
request of a service or for one whose query asks for it.
-/

set_option autoImplicit false

namespace FaultMesh

namespace RequestContext

def debugParameter : String := "debug_mode"

def asksForDebug (query : String) : Bool :=
  (Form.parse query).contains (debugParameter, "true")

/-- The primary subtag of the first entry of a list of languages. -/
def primarySubtag (languages : List Char) : List Char :=
  let entry := Text.before ';' (Text.before ',' languages)
  (Text.trim (Text.before '-' (Text.trim entry))).map Text.lowerAscii

/-- The locale that a list of languages asks for, if it asks for one. -/
def localeOf? (languages : String) : Option String :=
  if !Http.isPlainValue languages then none
  else
    let subtag := primarySubtag languages.toList
    if subtag = [] ∨ subtag = ['*'] then none else some (String.ofList subtag)

def preferredLocale? (fields : Http.Fields) : Option String :=
  (fields.first? "accept-language").bind localeOf?

end RequestContext

structure ContextSettings where
  registry : Registry
  debugMode : Bool
  defaultLocale : String

namespace ContextSettings

def ofConfig (config : Config) (registry : Registry) : ContextSettings :=
  ⟨registry, config.server.debugMode, config.errors.defaultLocale⟩

def contextFor (settings : ContextSettings) (request : Http.Request) : RequestContext :=
  let query := request.target.query.getD ""
  { locale := (RequestContext.preferredLocale? request.fields).getD settings.defaultLocale
    debug := settings.debugMode || RequestContext.asksForDebug query
    method := request.method
    path := request.target.path
    query }

def reporterFor (settings : ContextSettings) (request : Http.Request) : Reporter :=
  ⟨settings.registry, settings.contextFor request⟩

end ContextSettings

namespace Reporter

def respond (reporter : Reporter) (fault : Fault) : Http.Response :=
  .ofFault fault reporter.context.debug reporter.context.locale

end Reporter

end FaultMesh
