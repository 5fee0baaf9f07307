import Gazetteer.Error
import Gazetteer.Tree.Basic

/-! Vocabularies from configuration trees.

A configuration is a mapping from the names of groups to mappings from the names of terms to
patterns. One name is reserved in a group: it holds the flags of the group. Keys that are
written differently may stand for the same name; the later entry then replaces the earlier. -/
namespace Gazetteer.Vocabulary

/-- The key of a group's flags. -/
def flagsKey : String := "_flags"

/-- The error of a value of the wrong kind. -/
def wrongKind (what : String) (v : Tree) (expected : String) : Error :=
  .configType (what ++ " (" ++ v.kind ++ ")") expected

/-! ### Flags -/

/-- The error of a value that cannot be the flags of a group. -/
def wrongFlags (group : String) (v : Tree) : Error :=
  wrongKind ("'" ++ flagsKey ++ "' of '" ++ group ++ "'") v
    "a flag name, an integer, or a list of flag names and integers"

/-- The directive of a name or a number. -/
def flagOfTree (group : String) : Tree → Except Error Directive
  | .string token => .ok (.token token)
  | .int n => if Tree.isSigned64 n then .ok (.bits n) else .error (wrongFlags group (.int n))
  | v => .error (wrongFlags group v)

def flagsOfItems (group : String) : List Tree → Except Error (List Directive)
  | [] => .ok []
  | v :: items => do
    let first ← flagOfTree group v
    let others ← flagsOfItems group items
    return first :: others

/-- The names in a list of directives, if there are no numbers among them. -/
def tokens? : List Directive → Option (List String)
  | [] => some []
  | .token token :: items => (tokens? items).map (token :: ·)
  | _ :: _ => none

/-- The directive of the value of a group's flags. -/
def flagsOfTree (group : String) : Tree → Except Error Directive
  | .list items => do
    let directives ← flagsOfItems group items
    match tokens? directives with
    | some tokens => return .tokens tokens
    | none => return .mixed directives
  | v => flagOfTree group v

/-! ### Groups -/

/-- The name a key stands for. -/
def nameOfKey (what : String) (key : Tree) : Except Error String :=
  match key.name? with
  | some name => .ok name
  | none => .error (wrongKind what key "a string")

/-- Adds an entry of a group's mapping to the group. -/
def addTerm (g : TermGroup) (key value : Tree) : Except Error TermGroup := do
  let term ← nameOfKey ("term key in '" ++ g.name ++ "'") key
  if term == flagsKey then
    return g.setFlags (some (← flagsOfTree g.name value))
  else
    match value with
    | .string pattern => return g.insertTerm term pattern
    | v => .error (wrongKind ("pattern for '" ++ g.name ++ "." ++ term ++ "'") v "a string")

/-- Adds entries in order, up to the first that is refused. -/
def addTerms (g : TermGroup) : List (Tree × Tree) → Except Error TermGroup
  | [] => .ok g
  | (key, value) :: entries => do addTerms (← addTerm g key value) entries

def groupOfTree (name : String) : Tree → Except Error TermGroup
  | .mapping entries => addTerms (.empty name) entries
  | v =>
    .error (wrongKind ("entity group '" ++ name ++ "'") v "a mapping of term names to patterns")

/-! ### Vocabularies -/

/-- Adds an entry of a configuration to a vocabulary. -/
def addGroup (v : Vocabulary) (key value : Tree) : Except Error Vocabulary := do
  let name ← nameOfKey "entity group key" key
  return v.insertGroup (← groupOfTree name value)

/-- Adds entries in order, up to the first that is refused. -/
def addGroups (v : Vocabulary) : List (Tree × Tree) → Except Error Vocabulary
  | [] => .ok v
  | (key, value) :: entries => do addGroups (← addGroup v key value) entries

/-- The vocabulary of a configuration. -/
def ofTree : Tree → Except Error Vocabulary
  | .mapping entries => addGroups .empty entries
  | v => .error (wrongKind "pattern config" v "a mapping of entity groups")

end Gazetteer.Vocabulary
