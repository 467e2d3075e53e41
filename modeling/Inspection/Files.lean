/-! Files are read as text, and every refusal of the file system has a cause. -/

namespace Inspection

/-- Why a file could not be read as text. -/
inductive FileError where
  | missing
  | directory
  | notText
  /-- Any other refusal of the file system, in its own words. -/
  | refused (reason : String)
  deriving DecidableEq, Repr, Inhabited

/-- The wording of a file error. -/
def FileError.message : FileError → String
  | missing => "No such file or directory (os error 2)"
  | directory => "Is a directory (os error 21)"
  | notText => "stream did not contain valid UTF-8"
  | refused reason => reason

/-- What may be asked of a file system. -/
structure Files (m : Type → Type) where
  workingDirectory : m (Except FileError String)
  read : String → m (Except FileError String)
  /-- Whether there is a file at a location, and not a directory. -/
  isFile : String → m Bool
  /-- Whether there is anything at a location. -/
  isPresent : String → m Bool
  write : String → String → m (Except FileError Unit)

end Inspection
