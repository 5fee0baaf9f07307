import Gazetteer.Command.Arguments
import Gazetteer.Discovery
import Gazetteer.Report.Document

/-! Runs of the command line.

A run either reports on standard output or fails with one error on standard error, never both. -/
namespace Gazetteer.Command
variable {m : Type → Type} [Monad m]

/-- What a run leaves behind. -/
structure Outcome where
  exit : ExitCode
  stdout : String
  stderr : String
  deriving Repr, DecidableEq

/-- What a run that does not fail leaves behind. -/
structure Answer where
  exit : ExitCode
  text : String
  deriving Repr, DecidableEq

/-! ### Inputs read at once -/

/-- Several inputs are read at the same time, so where more than one cannot be read it is open which
of them is told. -/
structure Race where
  /-- The error that is told, of all in the order of the inputs. -/
  told : Error → List Error → Error
  told_mem : ∀ first others, told first others ∈ first :: others

namespace Race
variable {α : Type}

/-- The errors among outcomes. -/
def errors : List (Except Error α) → List Error
  | [] => []
  | .error e :: outcomes => e :: errors outcomes
  | .ok _ :: outcomes => errors outcomes

/-- The values among outcomes. -/
def values : List (Except Error α) → List α
  | [] => []
  | .error _ :: outcomes => values outcomes
  | .ok x :: outcomes => x :: values outcomes

/-- The values of outcomes, or one of their errors if there are any. -/
def collect (race : Race) (outcomes : List (Except Error α)) : Except Error (List α) :=
  match errors outcomes with
  | [] => .ok (values outcomes)
  | first :: others => .error (race.told first others)

end Race

/-- What a run has to do with outside of itself. -/
structure Host (m : Type → Type) where
  files : Files m
  wording : Wording
  race : Race

/-! ### Commands -/

/-- Loads and compiles the configuration that a command line names or leaves to be found. -/
def recognizer (files : Files m) (a : Arguments) : ExceptT Error m Recognizer := do
  let directory ← files.directory
  let path ← Discovery.resolve files a.config directory
  let v ← Discovery.load files path
  (Recognizer.ofVocabulary v (!a.noWordBoundaries) : Except Error Recognizer)

/-- The entities of one input. -/
def extractOne (files : Files m) (r : Recognizer) (group path : Option String) :
    ExceptT Error m Report.Extraction := do
  let text ← files.readSource path
  let entities ← (match group with
    | some g => r.extract g text
    | none => .ok (r.extractAll text) : Except Error EntityList)
  return { source := path, entities }

/-- What comes of each of the inputs. -/
def extractEach (files : Files m) (r : Recognizer) (group : Option String) :
    List String → m (List (Except Error Report.Extraction))
  | [] => return []
  | path :: paths => do
    let first ← (extractOne files r group (some path)).run
    let others ← extractEach files r group paths
    return first :: others

/-- The entities of the inputs, in order, or the error of one that cannot be read. -/
def extractAll (files : Files m) (race : Race) (r : Recognizer) (group : Option String)
    (paths : List String) : ExceptT Error m (List Report.Extraction) := do
  let outcomes ← (extractEach files r group paths : m (List (Except Error Report.Extraction)))
  (race.collect outcomes : Except Error (List Report.Extraction))

/-- Extracts entities. A group that is not known is reported before any input is read. -/
def extract (files : Files m) (race : Race) (a : Arguments) (paths : List String)
    (group : Option String) (output : Report.Format) : ExceptT Error m Answer := do
  let r ← recognizer files a
  match group with
  | some g =>
    let _ ← (r.group g : Except Error CompiledGroup)
  | none => pure ()
  let reports ← match paths with
    | [] => do pure [← extractOne files r group none]
    | paths => extractAll files race r group paths
  return ⟨.success, Report.extractions reports output⟩

/-- Isolates a term. The method is settled before the configuration is loaded, and the input is
read before the term is looked up. -/
def isolate (files : Files m) (a : Arguments) (path : Option String) (group term method : String)
    (output : Report.Format) : ExceptT Error m Answer := do
  let method ← (Method.ofName method : Except Error Method)
  let r ← recognizer files a
  let text ← files.readSource path
  let result ← (r.isolate group term text method : Except Error (Option Isolated))
  return {
    exit := if result.isSome then .success else .noMatch
    text := Report.isolation { group, term, method, result } output }

/-- Lists groups. -/
def groups (files : Files m) (a : Arguments) (output : Report.Format) :
    ExceptT Error m Answer := do
  return ⟨.success, Report.groups (← recognizer files a) output⟩

def respond (files : Files m) (race : Race) (a : Arguments) : Request → ExceptT Error m Answer
  | .extract paths group output => extract files race a paths group output
  | .isolate path group term method output => isolate files a path group term method output
  | .groups output => groups files a output

/-! ### Help and usage -/

def programName : String := "nerb"

def versionNumber : String := "0.1.0"

/-- The name of the program, or of one of its commands. -/
def fullName : Option Name → String
  | none => programName
  | some n => programName ++ "-" ++ n.text

def summary : Option Name → String
  | none => "Named entity extraction from hand-written regex vocabularies"
  | some .extract => "Extract named entities from text"
  | some .isolate => "Match a single term of an entity group"
  | some .groups => "List entity groups and their terms"

/-- What may follow the name of the program. -/
def usage : Option Name → String
  | none => "[OPTIONS] [COMMAND]"
  | some .extract => "extract [OPTIONS] [PATH]..."
  | some .isolate => "isolate [OPTIONS] --group <GROUP> --term <TERM> [PATH]"
  | some .groups => "groups [OPTIONS]"

def optionLine (o : OptionName) : String :=
  (match o.short? with
    | some c => "  -" ++ .ofList [c] ++ ", "
    | none => "      ") ++ "--" ++ o.long ++
    (if o.takesValue then " <" ++ o.long.toUpper ++ ">" else "") ++ "\n"

def commandLine (n : Name) : String := "  " ++ n.text ++ "  " ++ summary (some n) ++ "\n"

def helpText (command : Option Name) : String :=
  summary command ++ "\n\nUsage: " ++ programName ++ " " ++ usage command ++ "\n\n" ++
    (if command.isNone then
      "Commands:\n" ++ String.join ([.extract, .isolate, .groups].map commandLine) ++ "\n"
    else "") ++
    "Options:\n" ++ String.join ((OptionName.allowed command).map optionLine)

namespace UsageError

def description : UsageError → String
  | .help _ => "help was asked for"
  | .version _ => "the version was asked for"
  | .invalidValue => "an option or path has no value or one that is not allowed"
  | .argumentConflict => "an option was given twice"
  | .tooManyValues => "an option that takes no value was given one"
  | .unknownArgument => "unexpected argument"
  | .invalidSubcommand => "unrecognized command"
  | .missingRequiredArgument => "a required option was not given"

/-- What a command line that leads to no run leaves behind. -/
def outcome : UsageError → Outcome
  | .help command => ⟨.success, helpText command, ""⟩
  | .version command => ⟨.success, fullName command ++ " " ++ versionNumber ++ "\n", ""⟩
  | e =>
    let advice := "For more information, try '--help'.\n"
    ⟨.configuration, "", "error: " ++ e.description ++ "\n\n" ++ advice⟩

end UsageError

/-! ### Runs -/

/-- How an error is told. -/
def failure (w : Wording) (e : Error) : Outcome :=
  ⟨e.exitCode, "", programName ++ ": " ++ e.message w ++ "\n"⟩

def outcomeOf (w : Wording) : Except Error Answer → Outcome
  | .ok a => ⟨a.exit, a.text, ""⟩
  | .error e => failure w e

/-- Runs a command line. -/
def run (host : Host m) (preset : Option String) (words : List String) : m Outcome := do
  match Arguments.read preset words with
  | .error e => return e.outcome
  | .ok a =>
    match a.request with
    | none => return (UsageError.help none).outcome
    | some request =>
      return outcomeOf host.wording (← (respond host.files host.race a request).run)

end Gazetteer.Command
