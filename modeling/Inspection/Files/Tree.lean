import Inspection.Files
import Inspection.Location

/-! A file tree in memory answers like a file system and remembers what is written. -/

namespace Inspection

/-- Files by the names on the way to them from the top, and where a program runs among them. -/
structure FileTree where
  files : List (List String × ByteArray)
  workingDirectory : List String

/-- What is found at a location. -/
inductive FileNode where
  | directory
  | file (content : ByteArray)

namespace FileTree

/-- The names in a location, without those that lead nowhere. -/
def namesIn (location : String) : List String :=
  ((location.toList.splitOn '/').filter fun part => !Location.isIdle part).map String.ofList

/-- What is at the end of a way from the top; directories are those that ways lead through. -/
def node? (tree : FileTree) (way : List String) : Option FileNode :=
  match tree.files.lookup way with
  | some content => some (.file content)
  | none =>
    if way.isPrefixOf tree.workingDirectory || tree.files.any (fun file => way.isPrefixOf file.1)
    then some .directory
    else none

/-- Follows the parts of a location; every part but the last has to be a directory. -/
def follow (tree : FileTree) (way : List String) : List (List Char) → Except FileError FileNode
  | [] =>
    match tree.node? way with
    | some node => .ok node
    | none => .error .missing
  | part :: rest =>
    match tree.node? way with
    | none => .error .missing
    | some (.file _) => .error (.refused "Not a directory (os error 20)")
    | some .directory =>
      if Location.isIdle part then tree.follow way rest
      else if part = ['.', '.'] then tree.follow way.dropLast rest
      else tree.follow (way ++ [String.ofList part]) rest

/-- What is at a location, seen from the working directory. -/
def find (tree : FileTree) (location : String) : Except FileError FileNode :=
  match location.toList with
  | [] => .error .missing
  | '/' :: letters => tree.follow [] (letters.splitOn '/')
  | letters => tree.follow tree.workingDirectory (letters.splitOn '/')

/-- The text at a location. -/
def read (tree : FileTree) (location : String) : Except FileError String :=
  match tree.find location with
  | .error cause => .error cause
  | .ok .directory => .error .directory
  | .ok (.file content) =>
    match String.fromUTF8? content with
    | some text => .ok text
    | none => .error .notText

/-- Whether there is a file at a location. -/
def isFile (tree : FileTree) (location : String) : Bool :=
  match tree.find location with
  | .ok (.file _) => true
  | .ok .directory | .error _ => false

/-- Writes a new file into the working directory. -/
def write (tree : FileTree) (name content : String) : Except FileError Unit × FileTree :=
  let way := tree.workingDirectory ++ namesIn name
  match tree.node? way with
  | some .directory => (.error .directory, tree)
  | some (.file _) | none =>
    let others := tree.files.filter fun file => file.1 != way
    (.ok (), { tree with files := others ++ [(way, content.toUTF8)] })

/-- The tree as a file system. -/
def access : Files (StateM FileTree) where
  workingDirectory := do return .ok ("/" ++ String.intercalate "/" (← get).workingDirectory)
  read location := do return (← get).read location
  isFile location := do return (← get).isFile location
  isPresent location := do return ((← get).find location).isOk
  write name content := modifyGet fun tree => tree.write name content

end FileTree

end Inspection
