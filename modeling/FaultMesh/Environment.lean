import FaultMesh.Text.Utf8

/-!
# Environment variables

The variables that a program was started with.  A variable holds octets; one that holds no
text is as good as unset wherever a text is wanted.
-/

set_option autoImplicit false

namespace FaultMesh

structure Environment where
  entries : List (String × List UInt8)
  deriving Inhabited

namespace Environment

def octets? (environment : Environment) (name : String) : Option (List UInt8) :=
  environment.entries.lookup name

def text? (environment : Environment) (name : String) : Option String :=
  (environment.octets? name).bind Text.Utf8.decode?

end Environment

end FaultMesh
