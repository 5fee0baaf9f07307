import Gazetteer.Error

/-! Files as a program sees them.

What is read comes from outside, so it is a parameter: a run of a program is the same function of
a real file system and of one that is made up. -/
namespace Gazetteer

/-- Why a file cannot be read. -/
inductive ReadFault
  | notFound
  | notPermitted
  | notDirectory
  | isDirectory
  | nameTooLong
  | nulInPath
  | notText
  | other (reason : String)
  deriving Repr, DecidableEq

namespace ReadFault

def message : ReadFault → String
  | .notFound => "No such file or directory (os error 2)"
  | .notPermitted => "Permission denied (os error 13)"
  | .notDirectory => "Not a directory (os error 20)"
  | .isDirectory => "Is a directory (os error 21)"
  | .nameTooLong => "File name too long (os error 36)"
  | .nulInPath => "file name contained an unexpected NUL byte"
  | .notText => "stream did not contain valid UTF-8"
  | .other reason => reason

end ReadFault

/-- What a program can ask about files. -/
structure Files (m : Type → Type) where
  /-- Whether a path leads to anything. -/
  isPresent : String → m Bool
  /-- The text of a file. -/
  read : String → m (Except ReadFault String)
  /-- The text of standard input. -/
  readInput : m (Except ReadFault String)
  /-- The directory from which paths lead. -/
  directory : m String

namespace Files
variable {m : Type → Type} [Monad m]

/-- What a source is called; standard input has no path. -/
def labelOf (path : Option String) : String := path.getD "-"

/-- The text of a file, or of standard input if there is no path. -/
def readSource (files : Files m) (path : Option String) : ExceptT Error m String := do
  let text ← match path with
    | some path => files.read path
    | none => files.readInput
  match text with
  | .ok text => return text
  | .error fault => throw (.io (labelOf path) fault.message)

end Files
end Gazetteer
