import FaultMesh.Url.Form
import FaultMesh.Url.Host

/-!
# URLs

Absolute URLs in their parts.  A URL with a known scheme always has a host, and its path
is a list of segments; a URL with another scheme may have any path.  Reading removes dot
segments and encodes what may not stand in a part, so that a URL that was read and written
reads as itself.
-/

set_option autoImplicit false

namespace FaultMesh

namespace Url

inductive Path where
  | opaque_ (text : String)
  | segments (parts : List String)
  deriving DecidableEq, Repr

end Url

structure Url where
  scheme : String
  username : String
  password : Option String
  host : Option Url.Host
  port : Option UInt16
  path : Url.Path
  query : Option String
  fragment : Option String
  deriving DecidableEq, Repr

namespace Url

def isSpecial (scheme : String) : Bool :=
  ["http", "https", "ws", "wss", "ftp", "file"].contains scheme

def defaultPort? (scheme : String) : Option Nat :=
  match scheme with
  | "http" | "ws" => some 80
  | "https" | "wss" => some 443
  | "ftp" => some 21
  | _ => none

def isSchemeChar (c : Char) : Bool :=
  Text.isAlphanumeric c || c = '+' || c = '-' || c = '.'

def takeScheme? (text : List Char) : Option (String × List Char) := do
  let (scheme, rest) ← Text.splitOnce? ':' text
  match scheme with
  | [] => none
  | c :: others =>
    if Text.isLetter c ∧ others.all isSchemeChar then
      return (String.ofList ((c :: others).map Text.lowerAscii), rest)
    else none

def encodedInFragment (c : Char) : Bool := " \"<>`".toList.contains c

def encodedInQuery (special : Bool) (c : Char) : Bool :=
  " \"#<>".toList.contains c || (special && c = '\'')

def encodedInPath (c : Char) : Bool :=
  encodedInFragment c || c = '#' || c = '?' || c = '\x7b' || c = '\x7d'

def encodedInUserinfo (c : Char) : Bool :=
  encodedInPath c || "/:;=@[\\]^|".toList.contains c

def encodeText (needed : Char → Bool) (text : List Char) : String :=
  String.ofList (Percent.encode needed text)

def isSlash (special : Bool) (c : Char) : Bool := c = '/' || (special && c = '\\')

def endsAuthority (special : Bool) (c : Char) : Bool :=
  isSlash special c || c = '?' || c = '#'

def splitLast? (separator : Char) (text : List Char) : Option (List Char × List Char) :=
  (Text.splitOnce? separator text.reverse).map fun (behind, before) =>
    (before.reverse, behind.reverse)

def readUserinfo (text : List Char) : String × Option String :=
  let (username, password) :=
    match Text.splitOnce? ':' text with
    | some (username, password) => (username, if password.isEmpty then none else some password)
    | none => (text, none)
  (encodeText encodedInUserinfo username, password.map (encodeText encodedInUserinfo))

def takeHost : Bool → List Char → List Char × List Char
  | _, [] => ([], [])
  | inside, c :: rest =>
    if c = ':' ∧ ¬ inside then ([], c :: rest)
    else
      let inside := if c = '[' then true else if c = ']' then false else inside
      let (host, rest) := takeHost inside rest
      (c :: host, rest)

/-- A port; none stands for the default one of the scheme. -/
def readPort (scheme : String) (text : List Char) : Except Problem (Option UInt16) :=
  if ¬ text.all Text.isDigit then .error .invalidPort
  else if text.isEmpty then .ok none
  else
    let value := Text.decimalValue text
    if UInt16.size ≤ value then .error .invalidPort
    else if defaultPort? scheme = some value then .ok none
    else .ok (some (UInt16.ofNat value))

structure Authority where
  username : String
  password : Option String
  host : Host
  port : Option UInt16

def readHostText (special : Bool) (text : List Char) : Except Problem Host :=
  if special then
    if text.isEmpty then .error .emptyHost else Host.read text
  else Host.readOpaque text

def readAuthority (scheme : String) (text : List Char) : Except Problem Authority := do
  let special := isSpecial scheme
  let (userinfo, rest) := (splitLast? '@' text).getD ([], text)
  let (username, password) := readUserinfo userinfo
  let (hostText, rest) := takeHost false rest
  let host ← readHostText special hostText
  if hostText.isEmpty ∧ (username ≠ "" ∨ password.isSome) then .error .emptyHost
  match rest with
  | ':' :: port =>
    if hostText.isEmpty then .error .emptyHost
    else do
      let port ← readPort scheme port
      return ⟨username, password, host, port⟩
  | _ => return ⟨username, password, host, none⟩

def isSingleDot (segment : String) : Bool :=
  [".", "%2e", "%2E"].contains segment

def isDoubleDot (segment : String) : Bool :=
  ["..", ".%2e", ".%2E", "%2e.", "%2E.", "%2e%2e", "%2e%2E", "%2E%2e", "%2E%2E"].contains segment

/-- Removes dot segments; `done` are the segments so far with the last one first. -/
def resolveDots (done : List String) : List String → List String
  | [] => done.reverse
  | [segment] =>
    if isDoubleDot segment then ("" :: done.drop 1).reverse
    else if isSingleDot segment then ("" :: done).reverse
    else (segment :: done).reverse
  | segment :: segments =>
    if isDoubleDot segment then resolveDots (done.drop 1) segments
    else if isSingleDot segment then resolveDots done segments
    else resolveDots (segment :: done) segments

def readPath (special : Bool) (text : List Char) : Path :=
  .segments (resolveDots [] ((text.splitOnP (isSlash special)).map (encodeText encodedInPath)))

/-- The path behind an authority: a known scheme has one in any case. -/
def readPathBehindHost (special : Bool) (text : List Char) : Path :=
  match text with
  | [] => if special then .segments [""] else .segments []
  | c :: rest => if isSlash special c then readPath special rest else readPath special (c :: rest)

/-! ## Reading -/

def splitTail (text : List Char) : List Char × Option (List Char) × Option (List Char) :=
  let (text, fragment) :=
    match Text.splitOnce? '#' text with
    | some (text, fragment) => (text, some fragment)
    | none => (text, none)
  match Text.splitOnce? '?' text with
  | some (text, query) => (text, some query, fragment)
  | none => (text, none, fragment)

def withAuthority (scheme : String) (text : List Char) : Except Problem Url := do
  let special := isSpecial scheme
  let authorityText := text.takeWhile fun c => !endsAuthority special c
  let behind := text.drop authorityText.length
  -- The end of the text may follow an `@` without user and host, a path may not.
  if authorityText = ['@'] ∧ behind ≠ [] then .error .emptyHost
  let (path, query, fragment) := splitTail behind
  let authority ← readAuthority scheme authorityText
  return {
    scheme
    username := authority.username
    password := authority.password
    host := some authority.host
    port := authority.port
    path := readPathBehindHost special path
    query := query.map (encodeText (encodedInQuery special))
    fragment := fragment.map (encodeText encodedInFragment) }

def withoutAuthority (scheme : String) (text : List Char) : Url :=
  let (path, query, fragment) := splitTail text
  { scheme
    username := ""
    password := none
    host := none
    port := none
    path :=
      match path with
      | '/' :: rest => readPath false rest
      | path => .opaque_ (encodeText (fun _ => false) path)
    query := query.map (encodeText (encodedInQuery false))
    fragment := fragment.map (encodeText encodedInFragment) }

/-- A file URL: its host may be empty. -/
def ofFile (text : List Char) : Except Problem Url := do
  let special := "file"
  let slashes := (text.takeWhile (isSlash true)).take 3
  if 2 ≤ slashes.length then
    let text := text.drop 2
    let hostText := text.takeWhile fun c => !endsAuthority true c
    let host ← if hostText.isEmpty then pure none else (Host.read hostText).map some
    let host := if host = some (.domain "localhost") then none else host
    let (path, query, fragment) := splitTail (text.drop hostText.length)
    return {
      scheme := special, username := "", password := none, host, port := none
      path := readPathBehindHost true path
      query := query.map (encodeText (encodedInQuery true))
      fragment := fragment.map (encodeText encodedInFragment) }
  else
    let (path, query, fragment) := splitTail text
    return {
      scheme := special, username := "", password := none, host := none, port := none
      path := readPathBehindHost true path
      query := query.map (encodeText (encodedInQuery true))
      fragment := fragment.map (encodeText encodedInFragment) }

/-- Drops controls and spaces at the ends, and tabs and line ends everywhere. -/
def clean (text : List Char) : List Char :=
  let isEdge (c : Char) : Bool := c.toNat ≤ 0x20
  let trimmed := ((text.dropWhile isEdge).reverse.dropWhile isEdge).reverse
  trimmed.filter fun c => c ≠ '\t' && c ≠ '\n' && c ≠ '\r'

def parseChars (text : List Char) : Except Problem Url :=
  match takeScheme? (clean text) with
  | none => .error .relative
  | some (scheme, rest) =>
    if scheme = "file" then ofFile rest
    else if isSpecial scheme then withAuthority scheme (rest.dropWhile (isSlash true))
    else
      match rest with
      | '/' :: '/' :: rest => withAuthority scheme rest
      | rest => .ok (withoutAuthority scheme rest)

def parse (text : String) : Except Problem Url := parseChars text.toList

/-! ## Writing -/

def Path.render (hasHost : Bool) : Path → String
  | .opaque_ text => text
  | .segments parts =>
    let text := String.join (parts.map ("/" ++ ·))
    if !hasHost && parts.head? = some "" && 1 < parts.length then "/." ++ text else text

def renderUserinfo (url : Url) : String :=
  match url.password with
  | some password => url.username ++ ":" ++ password ++ "@"
  | none => if url.username = "" then "" else url.username ++ "@"

def renderAuthority (url : Url) : String :=
  match url.host with
  | none => if url.scheme = "file" then "//" else ""
  | some host =>
    "//" ++ renderUserinfo url ++ host.render ++
      match url.port with
      | some port => s!":{port}"
      | none => ""

def render (url : Url) : String :=
  let behind (mark : String) (part : Option String) : String := part.elim "" (mark ++ ·)
  url.scheme ++ ":" ++ url.renderAuthority ++
    url.path.render (url.host.isSome || url.scheme = "file") ++
    behind "?" url.query ++ behind "#" url.fragment

/-- Whether requests can be addressed by paths below this URL. -/
def isBaseWithHost (url : Url) : Bool :=
  match url.path, url.host with
  | .opaque_ _, _ => false
  | _, none => false
  | _, some host => host ≠ .domain ""

def readText? (written : String) : Option String :=
  Text.Utf8.decode? (Percent.decodeText written.toList)

def credentials? (url : Url) : Option (String × Option String) := do
  let username ← readText? url.username
  let password := url.password.bind readText?
  if username = "" ∧ password = none then none else return (username, password)

def withoutCredentials (url : Url) : Url :=
  if url.credentials?.isSome then { url with username := "", password := none } else url

def appendPair (url : Url) (name value : String) : Url :=
  { url with query := some (Form.appendPlain url.query name value) }

end Url

end FaultMesh
