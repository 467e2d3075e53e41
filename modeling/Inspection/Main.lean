import Inspection.Adapter
import Inspection.CommandLine

/-! The program: arguments, files and streams are handed to the library and its answers to the world. -/

namespace Inspection.Program

/-- What the file system says about a failed access. -/
def fileErrorOf : IO.Error → FileError
  | .noFileOrDirectory _ _ _ | .noSuchThing _ _ _ => .missing
  | .inappropriateType _ _ _ => .directory
  | error => .refused (toString error)

/-- The bytes of a file. -/
def readBytes (path : String) : IO (Except FileError ByteArray) := do
  try return .ok (← IO.FS.readBinFile path)
  catch error => return .error (fileErrorOf error)

/-- The text of a file. -/
def readText (path : String) : IO (Except FileError String) := do
  match ← readBytes path with
  | .error cause => return .error cause
  | .ok bytes =>
    match String.fromUTF8? bytes with
    | some text => return .ok text
    | none => return .error .notText

/-- Whether an access fails for another reason than the file being absent or a directory. -/
def isFile (path : String) : IO Bool := do
  match ← readBytes path with
  | .error .missing | .error .directory => return false
  | .error _ | .ok _ => return true

/-- Whether there is anything at a location. -/
def isPresent (path : String) : IO Bool := do
  match ← readBytes path with
  | .error .missing => return false
  | .error _ | .ok _ => return true

/-- Writes the text of a file. -/
def writeText (path content : String) : IO (Except FileError Unit) := do
  try return .ok (← IO.FS.writeFile path content)
  catch error => return .error (fileErrorOf error)

/-- The directory that the program runs in. -/
def workingDirectory : IO (Except FileError String) := do
  try return .ok (← IO.currentDir).toString
  catch error => return .error (fileErrorOf error)

/-- The file system of the machine. -/
def files : Files IO where
  workingDirectory := workingDirectory
  read := readText
  isFile := isFile
  isPresent := isPresent
  write := writeText

/-- Reads a fixed number of bytes, or as many as there are. -/
partial def readExactly (input : IO.FS.Stream) (count : Nat) (found : ByteArray) : IO ByteArray := do
  if count ≤ found.size then return found
  let bytes ← input.read (count - found.size).toUSize
  if bytes.isEmpty then return found else readExactly input count (found ++ bytes)

/-- The next request of a client, if one can be read. -/
def nextRequest (input : IO.FS.Stream) : IO (Option Adapter.Request) := do
  match Adapter.Envelope.announced? (← input.getLine) with
  | none => return none
  | some count =>
    if (← input.getLine).isEmpty then return none
    let bytes ← readExactly input count .empty
    if bytes.size < count then return none
    return (String.fromUTF8? bytes).bind Adapter.Request.parse?

/-- Serves a client until it ends the conversation or cannot be understood. -/
partial def converse (adapter : Adapter) (input output : IO.FS.Stream) : IO Unit := do
  if adapter.isOpen then
    let request? ← try nextRequest input catch _ => pure none
    match request? with
    | none => return
    | some request =>
      let (messages, adapter) := adapter.handle request
      output.putStr (Adapter.stream messages)
      output.flush
      converse adapter input output

end Inspection.Program

/-- Runs the program on its arguments and ends with its exit code. -/
def main (arguments : List String) : IO UInt32 := do
  match ← Inspection.CommandLine.run Inspection.Program.files arguments with
  | .misused =>
    (← IO.getStderr).putStr Inspection.CommandLine.Topic.program.usage
    return 2
  | .finished outcome =>
    (← IO.getStdout).putStr outcome.output
    (← IO.getStderr).putStr outcome.errors
    return UInt32.ofNat outcome.code
  | .serving session =>
    Inspection.Program.converse (.start session) (← IO.getStdin) (← IO.getStdout)
    return 0
