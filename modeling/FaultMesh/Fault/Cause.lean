/-!
# Causes

What led to a fault: a chain of failures, the nearest one first.  Each link of the chain
has a text; a link that is a fault itself can also be told by its code and status.
-/

set_option autoImplicit false

namespace FaultMesh

/-- What a fault is recognized by. -/
structure Identity where
  code : String
  status : UInt16
  deriving DecidableEq, Repr

structure Link where
  text : String
  identity : Option Identity
  deriving DecidableEq, Repr

/-- A failure and the failures behind it. -/
structure Cause where
  head : Link
  sources : List Link
  deriving DecidableEq, Repr

namespace Cause

def plain (text : String) : Cause := ⟨⟨text, none⟩, []⟩

def links (cause : Cause) : List Link := cause.head :: cause.sources

def text (cause : Cause) : String := cause.head.text

/-- A failure that is no fault, with a cause of its own. -/
def wrap (text : String) (source : Cause) : Cause := ⟨⟨text, none⟩, source.links⟩

end Cause

end FaultMesh
