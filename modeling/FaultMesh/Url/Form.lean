import FaultMesh.Text.Cut
import FaultMesh.Url.Percent

/-!
# Query strings

A query is a list of pairs with an ampersand between them and an equals sign within them.
A plus sign stands for a space, and octets that are no text are replaced.
-/

set_option autoImplicit false

namespace FaultMesh.Form

def decodePart (text : List Char) : String :=
  Text.Utf8.decodeLossy
    (Percent.decodeText (text.map fun c => if c = '+' then ' ' else c))

def decodePair (text : List Char) : String × String :=
  let (name, value) := (Text.splitOnce? '=' text).getD (text, [])
  (decodePart name, decodePart value)

/-- The pairs of a query; empty pieces are none. -/
def parse (query : String) : List (String × String) :=
  ((List.splitOn '&' query.toList).filter fun piece => !piece.isEmpty).map decodePair

def appendPlain (query : Option String) (name value : String) : String :=
  let query := query.getD ""
  (if query = "" then "" else query ++ "&") ++ name ++ "=" ++ value

end FaultMesh.Form
