import FaultMesh.Service.Route

/-!
# The catalog

A list of all definitions of a registry, in pages: the builtin ones first, and the others
in the order in which they were configured.
-/

set_option autoImplicit false

namespace FaultMesh.Catalog

def entry (definition : Definition) : Datum :=
  .map
    [("errorCode", .text definition.code),
     ("statusCode", .ofNat definition.status.toNat),
     ("description", .text definition.description),
     ("locales", .list (definition.messages.keys.map .text)),
     ("data", .map (definition.data.mapValues .text).entries)]

def listed (registry : Registry) (paging : Paging) : List Definition :=
  (paging.slice registry.codes).filterMap registry.getDefinition

def page (registry : Registry) (paging : Paging) : Datum :=
  .map
    [("total", .ofNat registry.size),
     ("limit", .ofNat paging.limit),
     ("offset", .ofNat paging.offset),
     ("errors", .list ((listed registry paging).map entry))]

def handler : Handler := fun ambient scope =>
  scope.withReporter fun reporter =>
    scope.withPaging ambient fun paging => (.json 200 (page reporter.registry paging), [])

def route : Route := ⟨.ofString "/errors", "GET", handler⟩

end FaultMesh.Catalog
