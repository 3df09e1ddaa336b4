import FaultMesh.Code
import FaultMesh.Template

/-!
# Definitions

The static description of one kind of fault: its code, the status that goes with it and
a message template for each locale.  The data documentation is for operators only.
-/

set_option autoImplicit false

namespace FaultMesh

structure Definition where
  code : String
  status : UInt16
  description : String
  messages : OrderedMap Template
  data : OrderedMap String
  deriving DecidableEq

namespace Definition

def component (definition : Definition) : String := Code.component definition.code

def blank : Definition := ⟨"", 0, "", .empty, .empty⟩

instance : Inhabited Definition := ⟨blank⟩

end Definition

end FaultMesh
