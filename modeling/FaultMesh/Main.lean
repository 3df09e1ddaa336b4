import FaultMesh.Program
import Std.Time.DateTime

/-!
# The command

Starts the program with the arguments, the variables and the files that it finds, and
answers requests for the targets on standard input, one a line, until the input ends.
-/

set_option autoImplicit false

namespace FaultMesh.Command

def splitZeros : List UInt8 → List (List UInt8)
  | [] => [[]]
  | octet :: rest =>
    match splitZeros rest with
    | [] => [[octet]]
    | piece :: pieces =>
      if octet = 0 then [] :: piece :: pieces else (octet :: piece) :: pieces

def variableOf? (entry : List UInt8) : Option (String × List UInt8) :=
  let name := entry.takeWhile (· ≠ 61)
  match entry.drop name.length with
  | _ :: value => (Text.Utf8.decode? name).map fun name => (name, value)
  | [] => none

def findEnvironment : IO Environment := do
  try
    let octets ← IO.FS.readBinFile "/proc/self/environ"
    return ⟨(splitZeros octets.toList).filterMap variableOf?⟩
  catch _ => return ⟨[]⟩

def reasonOf : IO.Error → String
  | .noFileOrDirectory _ code details => s!"{details} (os error {code})"
  | .permissionDenied _ code details => s!"{details} (os error {code})"
  | .inappropriateType _ code details => s!"{details} (os error {code})"
  | .invalidArgument _ code details => s!"{details} (os error {code})"
  | .resourceExhausted _ code details => s!"{details} (os error {code})"
  | error => toString error

def contentOf (path : String) : IO (Except String (List UInt8)) := do
  try
    let octets ← IO.FS.readBinFile path
    return .ok octets.toList
  catch error => return .error (reasonOf error)

def findFiles (environment : Environment) (arguments : List String) :
    IO (List (String × Except String (List UInt8))) := do
  match Arguments.read environment arguments with
  | .error _ => return []
  | .ok arguments =>
    let path := arguments.config
    let content ← contentOf path
    match Config.load environment path content with
    | .error _ => return [(path, content)]
    | .ok config =>
      let source := config.errors.path
      return [(path, content), (source, ← contentOf source)]

def findSurroundings (arguments : List String) : IO Surroundings := do
  let environment ← findEnvironment
  let files ← findFiles environment arguments
  return ⟨environment, fun path => (files.lookup path).getD (.error "not looked at")⟩

def twoDigits (n : Nat) : String := if n < 10 then s!"0{n}" else toString n

def findMoment : IO Moment := do
  let time := Std.Time.DateTime.ofTimestampWithZone (← Std.Time.Timestamp.now) .UTC
  let date := s!"{time.year.toInt}-{twoDigits time.month.toNat}-{twoDigits time.day.toNat}"
  let hour := twoDigits time.hour.toNat
  let clock := s!"{hour}:{twoDigits time.minute.toNat}:{twoDigits time.second.toNat}"
  return ⟨s!"{date}T{clock}Z", ""⟩

def printLines (lines : List String) : IO Unit := do
  for line in lines do
    IO.println line

def answer (program : Program) (target : String) : IO Unit := do
  match Http.Target.read? target with
  | none => IO.println "400"
  | some target =>
    let (response, lines) := program.respond (← findMoment) ⟨"GET", target, []⟩
    printLines lines
    IO.println s!"{response.status} {response.body}"

partial def answerAll (program : Program) (input : IO.FS.Stream) : IO Unit := do
  let line ← input.getLine
  if line.isEmpty then return
  answer program (String.ofList (Text.trim line.toList))
  answerAll program input

def finish (ending : Ending) : IO UInt32 := do
  printLines ending.output
  if let some complaint := ending.complaint then IO.eprintln complaint
  return UInt32.ofNat ending.code

def run (arguments : List String) : IO UInt32 := do
  let surroundings ← findSurroundings arguments
  match Program.start surroundings arguments with
  | .refused reason => finish (.refused surroundings.environment reason)
  | .failed log reason => finish (.failed log reason)
  | .ready log program =>
    printLines (log ++ program.sink.lines [Program.listeningEvent program.address])
    answerAll program (← IO.getStdin)
    printLines (program.sink.lines Program.stopEvents)
    return 0

end FaultMesh.Command

def main (arguments : List String) : IO UInt32 := FaultMesh.Command.run arguments
