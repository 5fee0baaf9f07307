import Gazetteer.Files
import Gazetteer.Vocabulary.Format

/-! Finding configurations.

A configuration that is not named is looked for in a directory and the directories around it, up
to the root of a repository. -/
namespace Gazetteer.Discovery
variable {m : Type → Type} [Monad m]

/-- The file names of configurations; the first that is there counts. -/
def names : List String := ["nerb.yaml", "nerb.yml", "nerb.toml", "nerb.json"]

/-- What marks the root of a repository. -/
def rootMark : String := ".git"

/-- The first of the named files that is in a directory. -/
def findIn (files : Files m) (directory : String) : List String → m (Option String)
  | [] => return none
  | name :: names => do
    let path := Path.join directory name
    if ← files.isPresent path then return some path else findIn files directory names

/-- The first configuration in directories, of which none after the root of a repository
counts. -/
def findAlong (files : Files m) : List String → m (Option String)
  | [] => return none
  | directory :: outer => do
    match ← findIn files directory names with
    | some path => return some path
    | none =>
      if ← files.isPresent (Path.join directory rootMark) then return none
      else findAlong files outer

/-- The configuration for a directory. -/
def find (files : Files m) (start : String) : m (Option String) :=
  findAlong files (Path.chain start)

/-- The error of a named configuration that is not there. -/
def missing (path : String) : Error := .config ("config file not found: " ++ path) (some path)

/-- The error of a directory for which there is no configuration. -/
def nothingFound (start : String) : Error :=
  .config ("no pattern config found (looked for " ++ ", ".intercalate names ++ " from " ++ start ++
    "); pass --config") none

/-- The configuration that is named, or else the one for a directory. -/
def resolve (files : Files m) (explicit : Option String) (start : String) :
    ExceptT Error m String := do
  match explicit with
  | some path =>
    if ← files.isPresent path then return path
    else throw (missing path)
  | none =>
    match ← (find files start : m (Option String)) with
    | some path => return path
    | none => throw (nothingFound start)

/-- Loads a vocabulary. The format is settled before the file is read. -/
def load (files : Files m) (path : String) : ExceptT Error m Vocabulary := do
  let format ← (Vocabulary.Format.ofPath path : Except Error Vocabulary.Format)
  let text ← files.readSource (some path)
  (Vocabulary.ofText format text (some path) : Except Error Vocabulary)

end Gazetteer.Discovery
