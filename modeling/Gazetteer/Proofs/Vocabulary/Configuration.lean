import Mathlib.Algebra.Ring.Int.Defs
import Gazetteer.Vocabulary.Decode

/-! Configurations as trees.

What makes a tree a configuration is said here without reading it (`Vocabulary.IsConfiguration`), and
so is all that is wrong with one that is none, in the order of the document (`Vocabulary.faults`). An
entry is judged by itself, whether or not a later one replaces it. -/
namespace Gazetteer.Vocabulary

/-! ### Well-formed trees -/

/-- The name or the number of a flag; a number has 64 bits, of which one is for the sign. -/
def IsFlag : Tree → Prop
  | .string _ => True
  | .int n => -2 ^ 63 ≤ n ∧ n < 2 ^ 63
  | _ => False

instance : DecidablePred IsFlag
  | .string _ => isTrue trivial
  | .int _ => inferInstanceAs (Decidable (_ ∧ _))
  | .null | .bool _ | .float _ | .list _ | .mapping _ | .tagged _ _ => isFalse id

theorem isSigned64_iff {n : Int} : Tree.isSigned64 n ↔ -2 ^ 63 ≤ n ∧ n < 2 ^ 63 := by
  have hpow : Nat.pow 2 63 = 9223372036854775808 := rfl
  unfold Tree.isSigned64
  rw [hpow]
  split <;> simp only [decide_eq_true_eq] <;> omega

/-! ### Faults -/

/-- A place in a configuration. -/
inductive Place
  | configuration
  | groupKey
  | group (name : String)
  | termKey (group : String)
  | pattern (group term : String)
  | flags (group : String)

namespace Place

def describe : Place → String
  | .configuration => "pattern config"
  | .groupKey => "entity group key"
  | .group name => "entity group '" ++ name ++ "'"
  | .termKey g => "term key in '" ++ g ++ "'"
  | .pattern g term => "pattern for '" ++ g ++ "." ++ term ++ "'"
  | .flags g => "'" ++ flagsKey ++ "' of '" ++ g ++ "'"

/-- What would be right at the place. -/
def expected : Place → String
  | .configuration => "a mapping of entity groups"
  | .groupKey | .termKey _ | .pattern _ _ => "a string"
  | .group _ => "a mapping of term names to patterns"
  | .flags _ => "a flag name, an integer, or a list of flag names and integers"

end Place

/-- A value that is wrong where it stands. -/
structure Fault where
  place : Place
  value : Tree

/-- The message of a fault: where it is, of what kind the value is, and what would be right. -/
def Fault.error (f : Fault) : Error :=
  .configType (f.place.describe ++ " (" ++ f.value.kind ++ ")") f.place.expected

def flagFaults (group : String) (v : Tree) : List Fault :=
  if IsFlag v then [] else [⟨.flags group, v⟩]

def flagsFaults (group : String) : Tree → List Fault
  | .list items => items.flatMap (flagFaults group)
  | v => flagFaults group v

end Gazetteer.Vocabulary
