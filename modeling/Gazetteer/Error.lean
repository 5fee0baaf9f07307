import Gazetteer.CompiledGroup

/-! What can go wrong, how it is told, and the exit code it leads to. -/
namespace Gazetteer

/-- The exit codes of a run. -/
inductive ExitCode
  | success
  /-- An isolated term was not found. -/
  | noMatch
  /-- The configuration or the arguments are at fault. -/
  | configuration
  | internal
  deriving Repr, DecidableEq

namespace ExitCode

def number : ExitCode → Nat
  | .success => 0
  | .noMatch => 1
  | .configuration => 2
  | .internal => 3

end ExitCode

inductive Error
  /-- A configuration of the wrong shape, or of a format that is not known. -/
  | configType (found expected : String)
  /-- A configuration that cannot be read or found. -/
  | config (message : String) (path : Option String)
  /-- A configuration whose text is not in its format. -/
  | malformed (format : Vocabulary.Format) (text : String) (path : Option String)
  | unknownGroup (group : String) (valid : List String)
  | unknownTerm (group term : String) (valid : List String)
  | unknownMethod (method : String)
  /-- A value that is no entity. -/
  | listType (found : String)
  | compilation (group : String) (cause : CompileError)
  | argument (text : String)
  | io (path reason : String)
  deriving Repr, DecidableEq

namespace Error

/-- The names of the isolation methods, as they are listed in a message. -/
def methodNames : List String := ["search", "finditer", "findall"]

def allowed (valid : List String) : String :=
  " (allowed values: " ++ ", ".intercalate valid ++ ")"

def message (w : Wording) : Error → String
  | .configType found expected => found ++ " is not a valid pattern config: expected " ++ expected
  | .config message _ => "config error: " ++ message
  | .malformed format text _ => "config error: " ++ w.document format text
  | .unknownGroup group valid => "unknown entity group '" ++ group ++ "'" ++ allowed valid
  | .unknownTerm group term valid =>
    "'" ++ term ++ "' is not a valid term for '" ++ group ++ "'" ++ allowed valid
  | .unknownMethod method => "'" ++ method ++ "' is not a valid method" ++ allowed methodNames
  | .listType found => "NamedEntityList holds NamedEntity values, got " ++ found
  | .compilation group cause =>
    "failed to compile entity group '" ++ group ++ "': " ++ cause.message w
  | .argument text => "argument error: " ++ text
  | .io path reason => "io error: " ++ path ++ ": " ++ reason

def exitCode : Error → ExitCode
  | .listType _ | .io _ _ => .internal
  | _ => .configuration

end Error
end Gazetteer
