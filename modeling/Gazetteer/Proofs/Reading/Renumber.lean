import Gazetteer.Proofs.Matching.Outcome
import Gazetteer.Proofs.Reading.Draft
import Gazetteer.Proofs.Reading.Primitive

/-! Patterns with their groups renumbered.

A pattern that is read behind others gets later indices for its groups, and that is the only
difference: `Node.ofAst_renumber` for what it matches and `Draft.add_within` for how it is
read. -/
namespace Gazetteer.Regex

/-! ### Patterns -/

namespace Ast

mutual
/-- The pattern with new indices for its groups. -/
def renumber (f : Nat → Nat) : Ast → Ast
  | .empty => .empty
  | .flags changes => .flags changes
  | .literal c byte => .literal c byte
  | .dot => .dot
  | .assertion a => .assertion a
  | .set s => .set s
  | .repetition least most greedy inner => .repetition least most greedy (renumber f inner)
  | .group (.capture index name) inner => .group (.capture (f index) name) (renumber f inner)
  | .group (.plain changes) inner => .group (.plain changes) (renumber f inner)
  | .alternation branches => .alternation (renumberAll f branches)
  | .concat items => .concat (renumberAll f items)

def renumberAll (f : Nat → Nat) : List Ast → List Ast
  | [] => []
  | part :: parts => renumber f part :: renumberAll f parts
end

theorem renumberAll_eq_map (f : Nat → Nat) (parts : List Ast) :
    renumberAll f parts = parts.map (renumber f) := by
  induction parts with
  | nil => rfl
  | cons part parts ih => rw [renumberAll, ih, List.map_cons]

variable {f : Nat → Nat} {a : Ast}

theorem renumber_of_isPrimitive (h : a.isPrimitive) : a.renumber f = a := by
  cases a <;> first | rfl | exact absurd h (by simp [isPrimitive])

mutual
theorem renumber_of_fixed (hf : ∀ i, f i = i) (a : Ast) : a.renumber f = a := by
  match a with
  | .repetition least most greedy inner =>
    exact congrArg (repetition least most greedy) (renumber_of_fixed hf inner)
  | .group (.capture index name) inner =>
    rw [renumber, hf, renumber_of_fixed hf inner]
  | .group (.plain changes) inner =>
    exact congrArg (group (.plain changes)) (renumber_of_fixed hf inner)
  | .alternation branches => exact congrArg alternation (renumberAll_of_fixed hf branches)
  | .concat items => exact congrArg concat (renumberAll_of_fixed hf items)
  | .empty | .flags _ | .literal _ _ | .dot | .assertion _ | .set _ => rfl

theorem renumberAll_of_fixed (hf : ∀ i, f i = i) (parts : List Ast) :
    renumberAll f parts = parts := by
  match parts with
  | [] => rfl
  | part :: parts => rw [renumberAll, renumber_of_fixed hf part, renumberAll_of_fixed hf parts]
end

mutual
/-- Renumbered, a pattern nests as deeply. -/
theorem height_renumber (f : Nat → Nat) (a : Ast) : (a.renumber f).height = a.height := by
  match a with
  | .repetition _ _ _ inner => exact congrArg (· + 1) (height_renumber f inner)
  | .group (.capture _ _) inner => exact congrArg (· + 1) (height_renumber f inner)
  | .group (.plain _) inner => exact congrArg (· + 1) (height_renumber f inner)
  | .alternation branches => exact congrArg (· + 1) (heights_renumber f branches)
  | .concat items => exact congrArg (· + 1) (heights_renumber f items)
  | .empty | .flags _ | .literal _ _ | .dot | .assertion _ | .set _ => rfl

theorem heights_renumber (f : Nat → Nat) (parts : List Ast) :
    heights (renumberAll f parts) = heights parts := by
  match parts with
  | [] => rfl
  | part :: parts =>
    rw [renumberAll, heights, heights, height_renumber f part, heights_renumber f parts]
end

theorem renumber_ofItems (items : List Ast) :
    (ofItems items).renumber f = ofItems (items.map (renumber f)) := by
  cases items with
  | nil => rfl
  | cons a items =>
    cases items with
    | nil => rfl
    | cons b items =>
      show Ast.concat (renumberAll f _) = _
      rw [renumberAll_eq_map]
      rfl

theorem renumber_ofBranches (branches : List Ast) :
    (ofBranches branches).renumber f = ofBranches (branches.map (renumber f)) := by
  cases branches with
  | nil => rfl
  | cons a branches =>
    cases branches with
    | nil => rfl
    | cons b branches =>
      show Ast.alternation (renumberAll f _) = _
      rw [renumberAll_eq_map]
      rfl

theorem isRepeatable_renumber (f : Nat → Nat) (a : Ast) :
    (a.renumber f).isRepeatable = a.isRepeatable := by
  cases a with
  | group kind inner => cases kind <;> rfl
  | _ => rfl

end Ast

/-! ### Nodes -/

namespace Node

variable {f : Nat → Nat}

theorem isNullable_renumber (n : Node) : (n.renumber f).isNullable = n.isNullable := by
  induction n with
  | capture _ _ ih => exact ih
  | cat _ _ iha ihb => exact congrArg₂ (· && ·) iha ihb
  | alt _ _ iha ihb => exact congrArg₂ (· || ·) iha ihb
  | plus _ _ ih => exact ih
  | _ => rfl

theorem isEmptyOnly_renumber (n : Node) : (n.renumber f).isEmptyOnly = n.isEmptyOnly := by
  induction n with
  | capture _ _ ih => exact ih
  | cat _ _ iha ihb => exact congrArg₂ (· && ·) iha ihb
  | alt _ _ iha ihb => exact congrArg₂ (· && ·) iha ihb
  | star _ _ ih => exact ih
  | plus _ _ ih => exact ih
  | _ => rfl

theorem optional_renumber (greedy : Bool) (n : Node) :
    (optional greedy n).renumber f = optional greedy (n.renumber f) := by
  cases greedy <;> rfl

theorem anyTurns_renumber (greedy : Bool) (n : Node) :
    (anyTurns greedy n).renumber f = anyTurns greedy (n.renumber f) := by
  unfold anyTurns
  rw [isNullable_renumber]
  split
  · exact optional_renumber greedy _
  · rfl

theorem turns_renumber (n : Node) (k : Nat) : (turns n k).renumber f = turns (n.renumber f) k := by
  induction k with
  | zero => rfl
  | succ k ih => exact congrArg (cat · (n.renumber f)) ih

theorem fewUpTo_renumber (n : Node) (k : Nat) :
    (fewUpTo n k).renumber f = fewUpTo (n.renumber f) k := by
  induction k with
  | zero => rfl
  | succ k ih =>
    unfold fewUpTo
    rw [optional_renumber]
    exact congrArg (fun m => optional false (cat (n.renumber f) m)) ih

theorem manyUpTo_renumber (n : Node) (k : Nat) :
    (manyUpTo n k).renumber f = manyUpTo (n.renumber f) k := by
  induction k with
  | zero => exact optional_renumber true n
  | succ k ih =>
    unfold manyUpTo
    rw [← optional_renumber, ← ih]
    rfl

theorem upTo_renumber (greedy : Bool) (n : Node) (k : Nat) :
    (upTo greedy n k).renumber f = upTo greedy (n.renumber f) k := by
  cases k with
  | zero => rfl
  | succ k =>
    cases greedy with
    | false => exact fewUpTo_renumber n (k + 1)
    | true => exact manyUpTo_renumber n k

theorem repetition_renumber (least : Nat) (most : Option Nat) (greedy : Bool) (n : Node) :
    (repetition least most greedy n).renumber f = repetition least most greedy (n.renumber f) := by
  unfold repetition
  rw [isEmptyOnly_renumber]
  split
  · split
    · rfl
    · split
      · exact optional_renumber greedy n
      · rfl
  · split
    · exact upTo_renumber greedy n _
    · split
      · exact turns_renumber n _
      · rw [← turns_renumber, ← upTo_renumber]
        rfl
    · exact anyTurns_renumber greedy n
    · rfl
    · rw [← turns_renumber]
      rfl

/-- A node and mode with the groups of the node renumbered. -/
def renumberFirst (f : Nat → Nat) (x : Node × Mode) : Node × Mode := (x.1.renumber f, x.2)

mutual
/-- A pattern with its groups renumbered matches the same. -/
theorem ofAst_renumber (f : Nat → Nat) (m : Mode) (a : Ast) :
    ofAst m (a.renumber f) = (ofAst m a).map (renumberFirst f) := by
  match a with
  | .empty => rfl
  | .flags _ => rfl
  | .literal c byte =>
    show (ofLiteral m c byte).map _ = ((ofLiteral m c byte).map _).map _
    unfold ofLiteral
    split <;> rfl
  | .dot =>
    show (if m.unicode then _ else _) = Option.map _ (if m.unicode then _ else _)
    split <;> rfl
  | .assertion _ => rfl
  | .set s =>
    show (s.charSet? m).map _ = ((s.charSet? m).map _).map _
    cases s.charSet? m <;> rfl
  | .repetition least most greedy inner =>
    show (ofAst m (inner.renumber f)).map _ = ((ofAst m inner).map _).map _
    rw [ofAst_renumber f m inner]
    cases ofAst m inner with
    | none => rfl
    | some x =>
      refine congrArg some (Prod.ext ?_ rfl)
      exact (repetition_renumber least most _ x.1).symm
  | .group (.capture index name) inner =>
    show (ofAst m (inner.renumber f)).map _ = ((ofAst m inner).map _).map _
    rw [ofAst_renumber f m inner]
    cases ofAst m inner <;> rfl
  | .group (.plain changes) inner =>
    show (ofAst (m.switch changes) (inner.renumber f)).map _ = ((ofAst _ inner).map _).map _
    rw [ofAst_renumber f _ inner]
    cases ofAst (m.switch changes) inner <;> rfl
  | .alternation branches => exact ofBranches_renumber f m branches
  | .concat items => exact ofItems_renumber f m items

theorem ofItems_renumber (f : Nat → Nat) (m : Mode) (items : List Ast) :
    ofItems m (Ast.renumberAll f items) = (ofItems m items).map (renumberFirst f) := by
  match items with
  | [] => rfl
  | a :: items =>
    show (ofAst m (a.renumber f)).bind _ = ((ofAst m a).bind _).map _
    rw [ofAst_renumber f m a]
    cases ofAst m a with
    | none => rfl
    | some x => exact ofItemsAfter_renumber f x.1 x.2 items

theorem ofItemsAfter_renumber (f : Nat → Nat) (first : Node) (m : Mode) (items : List Ast) :
    ofItemsAfter (first.renumber f) m (Ast.renumberAll f items) =
      (ofItemsAfter first m items).map (renumberFirst f) := by
  match items with
  | [] => rfl
  | a :: items =>
    show (ofAst m (a.renumber f)).bind _ = ((ofAst m a).bind _).map _
    rw [ofAst_renumber f m a]
    cases ofAst m a with
    | none => rfl
    | some x => exact ofItemsAfter_renumber f (.cat first x.1) x.2 items

theorem ofBranches_renumber (f : Nat → Nat) (m : Mode) (branches : List Ast) :
    ofBranches m (Ast.renumberAll f branches) = (ofBranches m branches).map (renumberFirst f) := by
  match branches with
  | [] => rfl
  | [a] => exact ofAst_renumber f m a
  | a :: b :: branches =>
    show (ofAst m (a.renumber f)).bind _ = ((ofAst m a).bind _).map _
    rw [ofAst_renumber f m a]
    cases ofAst m a with
    | none => rfl
    | some x =>
      have hrest := ofBranches_renumber f x.2 (b :: branches)
      show (ofBranches x.2 (Ast.renumberAll f (b :: branches))).bind _ =
        ((ofBranches x.2 (b :: branches)).bind _).map _
      rw [hrest]
      cases ofBranches x.2 (b :: branches) <;> rfl
end

end Node
end Gazetteer.Regex
