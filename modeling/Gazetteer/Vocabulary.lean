import Gazetteer.Flags

/-! Vocabularies: groups of terms, each with a pattern.

Order matters: the first declared term that matches wins, and groups are reported in the order of
their declaration. Declaring a name again replaces what it stood for and keeps its place. -/
namespace Gazetteer

structure Term where
  name : String
  pattern : String
  deriving Repr, DecidableEq

/-- The terms of one kind of entity, with the flags they are matched under. -/
structure TermGroup where
  name : String
  terms : List Term
  flags : Option Directive
  deriving Repr

namespace TermGroup

def empty (name : String) : TermGroup := ⟨name, [], none⟩

/-- Replaces the term of the same name in place, or adds the term at the end. -/
def insertInto (t : Term) : List Term → List Term
  | [] => [t]
  | u :: terms => if u.name == t.name then t :: terms else u :: insertInto t terms

def insertTerm (g : TermGroup) (name pattern : String) : TermGroup :=
  { g with terms := insertInto ⟨name, pattern⟩ g.terms }

def setFlags (g : TermGroup) (flags : Option Directive) : TermGroup :=
  { g with flags }

end TermGroup

structure Vocabulary where
  groups : List TermGroup
  deriving Repr

namespace Vocabulary

/-- The formats in which a vocabulary is written down. -/
inductive Format
  | yaml
  | toml
  | json
  deriving Repr, DecidableEq

def empty : Vocabulary := ⟨[]⟩

/-- Replaces the group of the same name in place, or adds the group at the end. -/
def insertInto (g : TermGroup) : List TermGroup → List TermGroup
  | [] => [g]
  | h :: groups => if h.name == g.name then g :: groups else h :: insertInto g groups

def insertGroup (v : Vocabulary) (g : TermGroup) : Vocabulary :=
  ⟨insertInto g v.groups⟩

def get? (v : Vocabulary) (name : String) : Option TermGroup :=
  v.groups.find? (·.name == name)

/-- Changes the group of a name, if there is one. -/
def modifyGroup (v : Vocabulary) (name : String) (change : TermGroup → TermGroup) : Vocabulary :=
  match v.get? name with
  | none => v
  | some g => v.insertGroup (change g)

def isEmpty (v : Vocabulary) : Bool := v.groups.isEmpty

end Vocabulary
end Gazetteer
