import Gazetteer.Report.Basic

/-! Command lines.

A command line is read on two levels: what stands before the name of a command, and what follows
it. Options that take a value have it attached or as the next argument, and are settled when the
next argument shows that their value is complete; so of two faults the one that is met first in
this order is reported. -/
namespace Gazetteer.Command

/-! ### Commands and options -/

inductive Name
  | extract
  | isolate
  | groups
  deriving Repr, DecidableEq

namespace Name

def text : Name → String
  | .extract => "extract"
  | .isolate => "isolate"
  | .groups => "groups"

def ofText? (s : String) : Option Name := [extract, isolate, groups].find? (·.text == s)

end Name

inductive OptionName
  | config
  | noWordBoundaries
  | group
  | term
  | method
  | output
  | help
  | version
  deriving Repr, DecidableEq

namespace OptionName

def long : OptionName → String
  | .config => "config"
  | .noWordBoundaries => "no-word-boundaries"
  | .group => "group"
  | .term => "term"
  | .method => "method"
  | .output => "output"
  | .help => "help"
  | .version => "version"

def short? : OptionName → Option Char
  | .config => some 'C'
  | .noWordBoundaries => none
  | .group => some 'g'
  | .term => some 't'
  | .method => some 'm'
  | .output => some 'o'
  | .help => some 'h'
  | .version => some 'V'

def takesValue : OptionName → Bool
  | .noWordBoundaries => false
  | .help => false
  | .version => false
  | _ => true

/-- The options that may stand before and after the name of a command. -/
def everywhere : List OptionName := [.config, .noWordBoundaries, .help, .version]

/-- The options that may stand after the name of a command, or before it. -/
def allowed : Option Name → List OptionName
  | none => everywhere
  | some .extract => [.group, .output] ++ everywhere
  | some .isolate => [.group, .term, .method, .output] ++ everywhere
  | some .groups => [.output] ++ everywhere

/-- The formats of reports by name. -/
def formats : List (String × Report.Format) := [("text", .text), ("json", .json)]

/-- Whether an option can have a value. -/
def accepts (o : OptionName) (value : String) : Bool :=
  match o with
  | .config => value != ""
  | .output => formats.any (·.1 == value)
  | _ => true

end OptionName

/-- Why a command line leads to no run. -/
inductive UsageError
  /-- Help was asked for, on a command or on all. -/
  | help (command : Option Name)
  | version (command : Option Name)
  | invalidValue
  | argumentConflict
  | tooManyValues
  | unknownArgument
  | invalidSubcommand
  | missingRequiredArgument
  deriving Repr, DecidableEq

/-! ### Levels -/

/-- What a value belongs to. -/
inductive Slot
  | option (o : OptionName)
  | path
  deriving Repr, DecidableEq

/-- Values that are not settled yet. -/
structure Pending where
  slot : Slot
  values : List String
  deriving Repr, DecidableEq

/-- What was read on a level. -/
structure Level where
  /-- The command of the level; the first level has none. -/
  command : Option Name
  /-- The options that are settled, with their values. -/
  given : List (OptionName × String)
  /-- The paths that are settled. -/
  paths : List String
  pending : Option Pending
  deriving Repr, DecidableEq

namespace Level

def start (command : Option Name) : Level := ⟨command, [], [], none⟩

def value? (l : Level) (o : OptionName) : Option String :=
  (l.given.find? (·.1 == o)).map (·.2)

def has (l : Level) (o : OptionName) : Bool := (l.value? o).isSome

/-- Whether the next argument is the value of an option. -/
def awaitsValue (l : Level) : Bool :=
  match l.pending with
  | some ⟨.option _, []⟩ => true
  | _ => false

/-- Settles values. Options are given once, and paths are not empty. -/
def accept (l : Level) (slot : Slot) (values : List String) : Except UsageError Level :=
  match slot with
  | .path =>
    if values.any (· == "") then .error .invalidValue
    else .ok { l with paths := l.paths ++ values }
  | .option o =>
    let value := values.head?.getD ""
    if o.takesValue && values.isEmpty then .error .invalidValue
    else if l.has o then .error .argumentConflict
    else if !o.accepts value then .error .invalidValue
    else .ok { l with given := l.given ++ [(o, value)] }

/-- Settles what is pending. -/
def settle (l : Level) : Except UsageError Level :=
  match l.pending with
  | none => .ok l
  | some p => { l with pending := none }.accept p.slot p.values

/-! ### Arguments -/

/-- Takes an option with the value that is attached to it. -/
def takeOption (l : Level) (o : OptionName) (attached : Option String) :
    Except UsageError Level := do
  if !o.takesValue && attached.isSome then throw .tooManyValues
  let l ← l.settle
  match o, attached with
  | .help, _ => throw (.help l.command)
  | .version, _ => throw (.version l.command)
  | o, some value => l.accept (.option o) [value]
  | o, none =>
    if o.takesValue then return { l with pending := some ⟨.option o, []⟩ }
    else l.accept (.option o) []

/-- Takes an option by its long name, which an equals sign separates from an attached value. -/
def takeLong (l : Level) (cs : List Char) : Except UsageError Level :=
  let name := String.ofList (cs.takeWhile (· != '='))
  let attached := match cs.dropWhile (· != '=') with
    | [] => none
    | _ :: value => some (String.ofList value)
  match (OptionName.allowed l.command).find? (·.long == name) with
  | some o => l.takeOption o attached
  | none => .error .unknownArgument

/-- Takes options by their letters, up to the first that takes a value. -/
def takeShort (l : Level) : List Char → Except UsageError Level
  | [] => .ok l
  | c :: cs => do
    match (OptionName.allowed l.command).find? (·.short? == some c) with
    | none => throw .unknownArgument
    | some o =>
      if o.takesValue then
        l.takeOption o (match cs with
          | [] => none
          | '=' :: value => some (.ofList value)
          | value => some (.ofList value))
      else (← l.takeOption o none).takeShort cs

/-- Takes a path. Paths in a row are settled together. -/
def takePath (l : Level) (path : String) : Except UsageError Level :=
  match l.pending with
  | some ⟨.path, values⟩ => .ok { l with pending := some ⟨.path, values ++ [path]⟩ }
  | _ => do return { ← l.settle with pending := some ⟨.path, [path]⟩ }

/-- Whether a path was taken. -/
def hasPath (l : Level) : Bool := !l.paths.isEmpty || l.pending.any (·.slot == .path)

/-- Takes an argument that is no option. -/
def takeWord (l : Level) (afterDashes : Bool) (word : String) : Except UsageError Level :=
  match l.command with
  | none =>
    if afterDashes && ((Name.ofText? word).isSome || word == "help") then .error .unknownArgument
    else .error .invalidSubcommand
  | some .extract => l.takePath word
  | some .isolate => if l.hasPath then .error .unknownArgument else l.takePath word
  | some .groups => .error .unknownArgument

/-- What asking for help on commands leads to. -/
def helpOn : List String → UsageError
  | [] => .help none
  | [word] =>
    match Name.ofText? word with
    | some n => .help (some n)
    | none => if word == "help" then .help none else .invalidSubcommand
  | _ => .invalidSubcommand

/-- The command that an argument names, on the first level. -/
def commandAt? (l : Level) (word : String) : Option Name :=
  if l.command.isNone && !l.awaitsValue then Name.ofText? word else none

/-- Reads arguments, up to the name of a command on the first level. Behind two dashes there are
no options. -/
def read (afterDashes : Bool) (l : Level) :
    List String → Except UsageError (Level × Option (Name × List String))
  | [] => .ok (l, none)
  | word :: words =>
    if afterDashes then do (← l.takeWord true word).read true words
    else
      match l.commandAt? word with
      | some name => .ok (l, some (name, words))
      | none =>
        if l.command.isNone && !l.awaitsValue && word == "help" then .error (helpOn words)
        else
          match word.toList with
          | ['-', '-'] => l.read true words
          | '-' :: '-' :: cs => do (← l.takeLong cs).read false words
          | '-' :: c :: cs => do (← l.takeShort (c :: cs)).read false words
          | _ =>
            match l.pending with
            | some ⟨.option o, []⟩ =>
              ({ l with pending := some ⟨.option o, [word]⟩ }).read false words
            | _ => do (← l.takeWord false word).read false words

/-- Settles what is left and checks that nothing is missing. A configuration that is set for all
runs counts on every level. -/
def finish (preset : Option String) (l : Level) : Except UsageError Level := do
  let l ← l.settle
  if !l.has .config && preset.any (fun value => !OptionName.accepts .config value) then
    throw .invalidValue
  if l.command == some .isolate && !(l.has .group && l.has .term) then
    throw .missingRequiredArgument
  return l

end Level

/-! ### Command lines -/

/-- What a command line asks for. -/
inductive Request
  | extract (paths : List String) (group : Option String) (output : Report.Format)
  | isolate (path : Option String) (group term method : String) (output : Report.Format)
  | groups (output : Report.Format)
  deriving Repr, DecidableEq

structure Arguments where
  config : Option String
  noWordBoundaries : Bool
  request : Option Request
  deriving Repr, DecidableEq

namespace Level

def format (l : Level) : Report.Format :=
  let format? := (l.value? .output).bind fun name => OptionName.formats.find? (·.1 == name)
  (format?.map (·.2)).getD .text

/-- What the options and paths of a command ask for. -/
def request (l : Level) : Name → Request
  | .extract => .extract l.paths (l.value? .group) l.format
  | .isolate => .isolate l.paths.head? ((l.value? .group).getD "") ((l.value? .term).getD "")
      ((l.value? .method).getD Method.default.name) l.format
  | .groups => .groups l.format

end Level

namespace Arguments

/-- Reads a command line. The configuration it names wins over the one that is set for all runs,
and one after the name of the command wins over one before it. -/
def read (preset : Option String) (words : List String) : Except UsageError Arguments := do
  let (outer, command) ← (Level.start none).read false words
  match command with
  | none =>
    let outer ← outer.finish preset
    return ⟨(outer.value? .config).or preset, outer.has .noWordBoundaries, none⟩
  | some (name, words) =>
    let (inner, _) ← (Level.start (some name)).read false words
    let inner ← inner.finish preset
    let outer ← outer.finish preset
    return {
      config := ((inner.value? .config).or (outer.value? .config)).or preset
      noWordBoundaries := inner.has .noWordBoundaries || outer.has .noWordBoundaries
      request := some (inner.request name) }

end Arguments
end Gazetteer.Command
