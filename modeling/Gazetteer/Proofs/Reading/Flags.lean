import Gazetteer.Regex.Node
import Gazetteer.Proofs.Reading.Outermost

/-! Where flags are in force.

A pattern can set flags for the rest of the group that it stands in. Which flags are in force behind
a pattern can be read off the pattern (`Node.mode_ofAst`), and so can whether the Unicode flag is
one of them (`Node.unicode_ofAst`). -/
namespace Gazetteer.Regex

namespace Ast

mutual
/-- The flags in force behind a pattern, with `m` in force before it. -/
def modeAfter (m : Mode) : Ast → Mode
  | .flags changes => m.switch changes
  | .repetition _ _ _ inner => modeAfter m inner
  | .alternation branches => modeAfterAll m branches
  | .concat items => modeAfterAll m items
  | _ => m

def modeAfterAll (m : Mode) : List Ast → Mode
  | [] => m
  | part :: parts => modeAfterAll (modeAfter m part) parts
end

mutual
/-- Whether the Unicode flag is in force behind a pattern, if `u` tells whether it is before. -/
def unicodeAfter (u : Bool) : Ast → Bool
  | .flags changes => (changes.value? .unicode).getD u
  | .repetition _ _ _ inner => unicodeAfter u inner
  | .alternation branches => unicodeAfterAll u branches
  | .concat items => unicodeAfterAll u items
  | _ => u

def unicodeAfterAll (u : Bool) : List Ast → Bool
  | [] => u
  | part :: parts => unicodeAfterAll (unicodeAfter u part) parts
end

/-- Whether the Unicode flag is in force wherever an alternative of the whole pattern ends. -/
def keepsUnicode : Ast → Bool
  | .alternation branches => branches.all (unicodeAfter true)
  | a => a.unicodeAfter true

mutual
theorem unicode_modeAfter (m : Mode) (a : Ast) :
    (a.modeAfter m).unicode = a.unicodeAfter m.unicode := by
  match a with
  | .repetition _ _ _ inner => exact unicode_modeAfter m inner
  | .alternation branches => exact unicode_modeAfterAll m branches
  | .concat items => exact unicode_modeAfterAll m items
  | .empty | .flags _ | .literal _ _ | .dot | .assertion _ | .set _ | .group _ _ => rfl

theorem unicode_modeAfterAll (m : Mode) (parts : List Ast) :
    (modeAfterAll m parts).unicode = unicodeAfterAll m.unicode parts := by
  match parts with
  | [] => rfl
  | part :: parts =>
    rw [modeAfterAll, unicodeAfterAll, unicode_modeAfterAll _ parts, unicode_modeAfter m part]
end

theorem unicodeAfterAll_append (u : Bool) (as bs : List Ast) :
    unicodeAfterAll u (as ++ bs) = unicodeAfterAll (unicodeAfterAll u as) bs := by
  induction as generalizing u with
  | nil => rfl
  | cons a as ih => exact ih (unicodeAfter u a)

theorem unicodeAfter_ofItems (u : Bool) (items : List Ast) :
    (ofItems items).unicodeAfter u = unicodeAfterAll u items := by
  match items with
  | [] => rfl
  | [_] => rfl
  | _ :: _ :: _ => rfl

theorem keepsUnicode_of_branchCount {a : Ast} (h : a.branchCount = 1) :
    a.keepsUnicode = a.unicodeAfter true := by
  cases a with
  | alternation branches =>
    obtain ⟨b, rfl⟩ := List.length_eq_one_iff.mp h
    exact Bool.and_true _
  | _ => rfl

theorem keepsUnicode_ofBranches {branches : List Ast}
    (h : ∀ a, branches = [a] → a.branchCount = 1) :
    (ofBranches branches).keepsUnicode = branches.all (unicodeAfter true) := by
  match branches with
  | [] => rfl
  | [a] => exact (keepsUnicode_of_branchCount (h a rfl)).trans (Bool.and_true _).symm
  | _ :: _ :: _ => rfl

end Ast

namespace Node

mutual
theorem mode_ofAst {n : Node} {m m' : Mode} {a : Ast} (h : ofAst m a = some (n, m')) :
    m' = a.modeAfter m := by
  match a with
  | .empty | .flags _ | .assertion _ =>
    obtain ⟨-, rfl⟩ := Prod.mk.inj (Option.some.inj h)
    rfl
  | .dot =>
    have h : (if m.unicode then some (Node.set _, m) else none) = some (n, m') := h
    split at h
    · obtain ⟨-, rfl⟩ := Prod.mk.inj (Option.some.inj h)
      rfl
    · exact absurd h (by simp)
  | .literal c byte =>
    obtain ⟨_, -, heq⟩ := Option.map_eq_some_iff.1 h
    obtain ⟨-, rfl⟩ := Prod.mk.inj heq
    rfl
  | .set s =>
    obtain ⟨_, -, heq⟩ := Option.map_eq_some_iff.1 h
    obtain ⟨-, rfl⟩ := Prod.mk.inj heq
    rfl
  | .repetition least most greedy inner =>
    obtain ⟨⟨n', m''⟩, hinner, heq⟩ := Option.map_eq_some_iff.1 h
    obtain ⟨-, rfl⟩ := Prod.mk.inj heq
    exact mode_ofAst (a := inner) hinner
  | .group (.capture _ _) inner =>
    obtain ⟨⟨n', m''⟩, -, heq⟩ := Option.map_eq_some_iff.1 h
    obtain ⟨-, rfl⟩ := Prod.mk.inj heq
    rfl
  | .group (.plain _) inner =>
    obtain ⟨⟨n', m''⟩, -, heq⟩ := Option.map_eq_some_iff.1 h
    obtain ⟨-, rfl⟩ := Prod.mk.inj heq
    rfl
  | .alternation branches => exact mode_ofBranches h
  | .concat items => exact mode_ofItems h

theorem mode_ofItems {n : Node} {m m' : Mode} {items : List Ast}
    (h : ofItems m items = some (n, m')) :
    m' = Ast.modeAfterAll m items := by
  match items with
  | [] =>
    obtain ⟨-, rfl⟩ := Prod.mk.inj (Option.some.inj h)
    rfl
  | a :: items =>
    obtain ⟨⟨first, m₁⟩, hfirst, hrest⟩ := Option.bind_eq_some_iff.1 h
    rw [Ast.modeAfterAll, ← mode_ofAst hfirst]
    exact mode_ofItemsAfter hrest

theorem mode_ofItemsAfter {first n : Node} {m m' : Mode} {items : List Ast}
    (h : ofItemsAfter first m items = some (n, m')) :
    m' = Ast.modeAfterAll m items := by
  match items with
  | [] =>
    obtain ⟨-, rfl⟩ := Prod.mk.inj (Option.some.inj h)
    rfl
  | a :: items =>
    obtain ⟨⟨second, m₁⟩, hsecond, hrest⟩ := Option.bind_eq_some_iff.1 h
    rw [Ast.modeAfterAll, ← mode_ofAst hsecond]
    exact mode_ofItemsAfter hrest

theorem mode_ofBranches {n : Node} {m m' : Mode} {branches : List Ast}
    (h : ofBranches m branches = some (n, m')) :
    m' = Ast.modeAfterAll m branches := by
  match branches with
  | [] =>
    obtain ⟨-, rfl⟩ := Prod.mk.inj (Option.some.inj h)
    rfl
  | [a] => exact mode_ofAst h
  | a :: b :: branches =>
    obtain ⟨⟨first, m₁⟩, hfirst, hrest⟩ := Option.bind_eq_some_iff.1 h
    obtain ⟨⟨second, m₂⟩, hsecond, heq⟩ := Option.bind_eq_some_iff.1 hrest
    obtain ⟨-, rfl⟩ := Prod.mk.inj (Option.some.inj heq)
    rw [Ast.modeAfterAll, ← mode_ofAst hfirst]
    exact mode_ofBranches hsecond
end

theorem unicode_ofAst {n : Node} {m m' : Mode} {a : Ast} (h : ofAst m a = some (n, m')) :
    m'.unicode = a.unicodeAfter m.unicode := by
  rw [mode_ofAst h, Ast.unicode_modeAfter]

end Node
end Gazetteer.Regex
