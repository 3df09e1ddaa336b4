import FaultMesh.Builtin
import FaultMesh.Log

/-!
# Registry

The merged view of the builtin codes and the configured ones.  A builtin definition wins
over a configured one with the same code; the configured one stays in the registry, but
nothing finds it.  Configured codes keep the order in which they were first inserted.
-/

set_option autoImplicit false

namespace FaultMesh

inductive RegistryError where
  | notFound (code : String)
  | unreadable (path : String) (reason : String)
  | unparsable
  | invalidDefinition (code : String) (reason : String)
  | invalidCode (code : String)
  deriving DecidableEq, Repr

def RegistryError.message : RegistryError → String
  | .notFound code => s!"error code not found: {code}"
  | .unreadable path reason => s!"failed to read error template source {path}: {reason}"
  | .unparsable => "failed to parse error template source"
  | .invalidDefinition code reason => s!"invalid error definition '{code}': {reason}"
  | .invalidCode code =>
    s!"invalid error code '{code}': expected <component>.<status>.<reason>"

structure Registry where
  configured : OrderedMap Definition
  deriving DecidableEq

namespace Registry

def builtin : Registry := ⟨.empty⟩

instance : Inhabited Registry := ⟨builtin⟩

def logTarget : String := "emf_errors::registry"

def shadowedEvent (code : String) : Log.Event where
  level := .warn
  target := logTarget
  message := "configured error definition is shadowed by a builtin"
  fields := [("code", .shown code)]

def insertEvents (code : String) : List Log.Event :=
  if (Builtin.ofCode? code).isSome then [shadowedEvent code] else []

def insert (registry : Registry) (definition : Definition) : Except RegistryError Registry :=
  if Code.isValid definition.code then
    .ok ⟨registry.configured.insert definition.code definition⟩
  else .error (.invalidCode definition.code)

/-- The definition of a code: a builtin one before a configured one. -/
def getDefinition (registry : Registry) (code : String) : Option Definition :=
  match Builtin.ofCode? code with
  | some builtin => some builtin.definition
  | none => registry.configured.get? code

def resolve (registry : Registry) (code : String) : Except RegistryError Definition :=
  match registry.getDefinition code with
  | some definition => .ok definition
  | none => .error (.notFound code)

/-- All codes of the merged view: the builtin ones, then the configured ones in order. -/
def codes (registry : Registry) : List String :=
  Builtin.all.map Builtin.code ++
    registry.configured.keys.filter fun code => (Builtin.ofCode? code).isNone

def size (registry : Registry) : Nat := registry.codes.length

end Registry

end FaultMesh
