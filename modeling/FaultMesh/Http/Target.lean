import FaultMesh.Text.Blank
import FaultMesh.Text.Cut

/-!
# Request targets

What a request asks for: a path and a query, which may stand behind a scheme and an
authority.  A target may also be an authority alone, which has no path, or an asterisk.
A fragment is not part of a target.
-/

set_option autoImplicit false

namespace FaultMesh.Http

structure Target where
  path : String
  query : Option String
  deriving DecidableEq, Repr

namespace Target

def limit : Nat := 65534

def isSchemeChar (c : Char) : Bool :=
  Text.isAlphanumeric c || c = '+' || c = '-' || c = '.' || c = '~'

def schemeLimit : Nat := 64

def dropScheme? (text : List Char) : Option (Bool × List Char) :=
  let scheme := text.takeWhile isSchemeChar
  match text.drop scheme.length with
  | ':' :: '/' :: '/' :: rest => if scheme.length ≤ schemeLimit then some (true, rest) else none
  | _ => some (false, text)

def isAuthorityChar (c : Char) : Bool :=
  Text.isAlphanumeric c || "!$&'()*+,-.;=_~".toList.contains c

def endsAuthority (c : Char) : Bool := c = '/' || c = '?' || c = '#'

/-- What has been seen of an authority; what stands before an at sign or within brackets
is no port. -/
structure Authority where
  colons : Nat
  opened : Bool
  closed : Bool
  percent : Bool
  endsInAt : Bool
  deriving DecidableEq, Repr

namespace Authority

def start : Authority := ⟨0, false, false, false, false⟩

def colonLimit : Nat := 8

def step? (seen : Authority) (c : Char) : Option Authority :=
  let seen := { seen with endsInAt := false }
  match c with
  | ':' => if colonLimit ≤ seen.colons then none else some { seen with colons := seen.colons + 1 }
  | '[' => if seen.percent || seen.opened then none else some { seen with opened := true }
  | ']' =>
    if !seen.opened || seen.closed then none
    else some { seen with closed := true, colons := 0, percent := false }
  | '@' => some { seen with colons := 0, percent := false, endsInAt := true }
  | '%' => some { seen with percent := true }
  | c => if isAuthorityChar c then some seen else none

def isComplete (seen : Authority) : Bool :=
  seen.opened == seen.closed && seen.colons ≤ 1 && !seen.endsInAt && !seen.percent

end Authority

def takeAuthority? (text : List Char) : Option (List Char × List Char) := do
  let authority := text.takeWhile fun c => !endsAuthority c
  let seen ← authority.foldlM Authority.step? .start
  if seen.isComplete then return (authority, text.drop authority.length) else none

def isPathChar (c : Char) : Bool :=
  0x7F ≤ c.toNat || (0x20 < c.toNat && !"#<>?`".toList.contains c)

def isQueryChar (c : Char) : Bool :=
  0x7F ≤ c.toNat || (0x20 < c.toNat && !"\"#<>".toList.contains c)

/-- Path and query up to a fragment; no path stands for the root. -/
def readPath? (text : List Char) : Option Target := do
  let text := Text.before '#' text
  let (path, query) :=
    match Text.splitOnce? '?' text with
    | some (path, query) => (path, some query)
    | none => (text, none)
  if path.all isPathChar ∧ (query.getD []).all isQueryChar then
    return ⟨if path.isEmpty then "/" else String.ofList path, query.map String.ofList⟩
  else none

def readChars? (text : List Char) : Option Target :=
  match text with
  | [] => none
  | ['*'] => some ⟨"*", none⟩
  | '/' :: _ => readPath? text
  | text => do
    let (hasScheme, rest) ← dropScheme? text
    let (authority, rest) ← takeAuthority? rest
    if hasScheme then
      if authority.isEmpty then none else readPath? rest
    else if rest.isEmpty then some ⟨"", none⟩
    else none

def read? (text : String) : Option Target :=
  if limit < text.utf8ByteSize then none else readChars? text.toList

end Target

end FaultMesh.Http
