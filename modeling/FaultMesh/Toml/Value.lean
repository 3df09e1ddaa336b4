import FaultMesh.Decimal.Double
import FaultMesh.Schema.Mismatch

/-!
# TOML values

Whole numbers are of any size here; what a reader wants of them decides how large they may
be.  Tables hold each key once and keep an order: a table stands where its own header
stands, or else where it was first implied.
-/

set_option autoImplicit false

namespace FaultMesh.Toml

inductive Value where
  | text (value : String)
  | integer (value : Int)
  | real (value : Option Double)
  | boolean (value : Bool)
  | moment (value : String)
  | list (items : List Value)
  | table (entries : List (String × Value))
  deriving Inhabited, Repr

end FaultMesh.Toml
