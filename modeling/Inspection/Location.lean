/-! A location names a file by the directories on the way to it, between slashes. -/

namespace Inspection.Location

/-- The location of a name in a directory. -/
def join (directory name : String) : String :=
  if directory.isEmpty || directory.endsWith "/" then directory ++ name else directory ++ "/" ++ name

/-- The parts of a location, the last one first. -/
def reversedParts (location : String) : List (List Char) :=
  (location.toList.splitOn '/').reverse

/-- Parts that lead nowhere: empty ones and single dots. -/
def isIdle (part : List Char) : Bool := part.isEmpty || part == ['.']

/-- Drops the parts at the end that lead nowhere; the first part of a location stays. -/
def dropIdle : List (List Char) → List (List Char)
  | [] => []
  | [part] => [part]
  | part :: rest => if isIdle part then dropIdle rest else part :: rest

/-- The locations that contain the one with the given parts, nearest first. -/
def enclosing : List (List Char) → List (List (List Char))
  | [] => []
  | part :: rest =>
    if rest.all List.isEmpty then
      -- Of a name that stands alone, the directory is where the program runs; the top has none.
      if part.isEmpty then [] else [rest]
    else if isIdle part then enclosing rest
    else dropIdle rest :: enclosing rest

/-- The text of reversed parts; the top of all directories is a single slash. -/
def ofReversed : List (List Char) → String
  | [] => ""
  | [[]] => "/"
  | parts => String.ofList (List.intercalate ['/'] parts.reverse)

/-- A directory and all that contain it, nearest first. -/
def ancestors (directory : String) : List String :=
  directory :: (enclosing (reversedParts directory)).map ofReversed

end Inspection.Location
