import FaultMesh.Code
import FaultMesh.Fault.Cause

/-!
# Probes

A probe looks at one property of a fault and at no other: its code, its status, or the
component that owns its code.
-/

set_option autoImplicit false

namespace FaultMesh

inductive Probe where
  | byCode (code : String)
  | byStatus (status : UInt16)
  | byComponent (component : String)
  deriving DecidableEq, Repr

namespace Probe

def accepts : Probe → Identity → Bool
  | .byCode code, identity => identity.code == code
  | .byStatus status, identity => identity.status == status
  | .byComponent component, identity => Code.component identity.code == component

def like (identity : Identity) : Probe := .byCode identity.code

/-- Whether a chain of failures holds a fault that the probe accepts. -/
def acceptsChain (probe : Probe) (cause : Cause) : Bool :=
  cause.links.any fun link => link.identity.any probe.accepts

end Probe

end FaultMesh
