import FaultMesh.Text.Blank

/-!
# Tokens and field values

Methods and the names of header fields are tokens.  A field value holds no controls except
tabs; it counts as plain when it is ASCII throughout.
-/

set_option autoImplicit false

namespace FaultMesh.Http

def isTokenChar (c : Char) : Bool :=
  Text.isAlphanumeric c || "!#$%&'*+-.^_`|~".toList.contains c

def isToken (text : String) : Bool :=
  text ≠ "" && text.toList.all isTokenChar

def isValueChar (c : Char) : Bool := c = '\t' || (0x20 ≤ c.toNat && c.toNat ≠ 0x7F)

def isFieldValue (text : String) : Bool := text.toList.all isValueChar

def isPlainValue (text : String) : Bool :=
  text.toList.all fun c => isValueChar c && c.toNat < 0x80

def nameLimit : Nat := 65535

def isFieldName (text : String) : Bool := isToken text && text.utf8ByteSize ≤ nameLimit

def canonicalName (name : String) : String := String.ofList (name.toList.map Text.lowerAscii)

end FaultMesh.Http
