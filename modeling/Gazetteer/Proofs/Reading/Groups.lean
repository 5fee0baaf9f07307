import Gazetteer.Proofs.Reading.Within

/-! The groups of a pattern.

Groups are numbered in the order in which they open, and a name is used once. So an index or a name
tells which group of a pattern is meant (`Draft.Numbered`). -/
namespace Gazetteer.Regex

/-! ### Patterns -/

namespace Ast

mutual
/-- The capturing groups of a pattern. -/
def groups : Ast → List (Nat × Option String)
  | .repetition _ _ _ inner => groups inner
  | .group (.capture index name) inner => (index, name) :: groups inner
  | .group (.plain _) inner => groups inner
  | .alternation branches => groupsOf branches
  | .concat items => groupsOf items
  | _ => []

def groupsOf : List Ast → List (Nat × Option String)
  | [] => []
  | part :: parts => groups part ++ groupsOf parts
end

theorem groupsOf_eq_flatMap (parts : List Ast) : groupsOf parts = parts.flatMap groups := by
  induction parts with
  | nil => rfl
  | cons part parts ih => rw [groupsOf, ih, List.flatMap_cons]

/-- The index of a group with its name, if it has one. -/
def named? (g : Nat × Option String) : Option (Nat × String) := g.2.map fun name => (g.1, name)

mutual
theorem groupNames_eq (a : Ast) : a.groupNames = a.groups.filterMap named? := by
  match a with
  | .repetition _ _ _ inner => exact groupNames_eq inner
  | .group (.capture index (some name)) inner =>
    exact congrArg ((index, name) :: ·) (groupNames_eq inner)
  | .group (.capture _ none) inner => exact groupNames_eq inner
  | .group (.plain _) inner => exact groupNames_eq inner
  | .alternation branches => exact groupNamesOf_eq branches
  | .concat items => exact groupNamesOf_eq items
  | .empty | .flags _ | .literal _ _ | .dot | .assertion _ | .set _ => rfl

theorem groupNamesOf_eq (parts : List Ast) :
    groupNamesOf parts = (groupsOf parts).filterMap named? := by
  match parts with
  | [] => rfl
  | part :: parts =>
    rw [groupNamesOf, groupsOf, List.filterMap_append, groupNames_eq part, groupNamesOf_eq parts]
end

/-- Groups with new indices. -/
def renumberGroups (f : Nat → Nat) (groups : List (Nat × Option String)) :
    List (Nat × Option String) :=
  groups.map fun g => (f g.1, g.2)

mutual
theorem groups_renumber (f : Nat → Nat) (a : Ast) :
    (a.renumber f).groups = renumberGroups f a.groups := by
  match a with
  | .repetition _ _ _ inner => exact groups_renumber f inner
  | .group (.capture index name) inner =>
    exact congrArg ((f index, name) :: ·) (groups_renumber f inner)
  | .group (.plain _) inner => exact groups_renumber f inner
  | .alternation branches => exact groupsOf_renumber f branches
  | .concat items => exact groupsOf_renumber f items
  | .empty | .flags _ | .literal _ _ | .dot | .assertion _ | .set _ => rfl

theorem groupsOf_renumber (f : Nat → Nat) (parts : List Ast) :
    groupsOf (renumberAll f parts) = renumberGroups f (groupsOf parts) := by
  match parts with
  | [] => rfl
  | part :: parts =>
    rw [renumberAll, groupsOf, groupsOf, groups_renumber f part, groupsOf_renumber f parts]
    exact (List.map_append ..).symm
end

theorem groups_of_isPrimitive {a : Ast} (h : a.isPrimitive) : a.groups = [] := by
  cases a <;> first | rfl | exact absurd h (by simp [isPrimitive])

theorem groups_ofItems (items : List Ast) : (ofItems items).groups = items.flatMap groups := by
  rcases items with _ | ⟨a, _ | ⟨b, items⟩⟩
  · rfl
  · simp [ofItems]
  · exact groupsOf_eq_flatMap _

theorem groups_ofBranches (branches : List Ast) :
    (ofBranches branches).groups = branches.flatMap groups := by
  rcases branches with _ | ⟨a, _ | ⟨b, branches⟩⟩
  · rfl
  · simp [ofBranches]
  · exact groupsOf_eq_flatMap _

end Ast

/-! ### Drafts -/

namespace Level

def groups (l : Level) : List (Nat × Option String) :=
  l.items.flatMap Ast.groups ++ l.branches.flatMap Ast.groups

theorem groups_push (l : Level) (a : Ast) : (l.push a).groups = a.groups ++ l.groups :=
  List.append_assoc ..

theorem groups_branch (l : Level) : l.branch.groups.Perm (l.items.flatMap Ast.groups) := by
  unfold branch
  rw [Ast.groups_ofItems]
  exact (List.reverse_perm l.items).flatMap_right Ast.groups

theorem groups_bar (l : Level) : l.bar.groups.Perm l.groups :=
  l.groups_branch.append_right _

theorem groups_content (l : Level) : l.content.groups.Perm l.groups := by
  unfold content
  rw [Ast.groups_ofBranches]
  refine ((List.reverse_perm _).flatMap_right Ast.groups).trans ?_
  exact l.groups_branch.append_right _

theorem groups_repeatLast {l l' : Level} {least : Nat} {most : Option Nat} {greedy : Bool}
    (h : l.repeatLast least most greedy = some l') : l'.groups = l.groups := by
  unfold repeatLast at h
  split at h
  · exact absurd h (by simp)
  · rename_i a items hitems
    split at h
    · obtain rfl := Option.some.inj h
      unfold groups
      rw [hitems]
      rfl
    · exact absurd h (by simp)

end Level

namespace OpenGroup

/-- The groups of what was read around the group, and the group itself if it captures. -/
def groups (g : OpenGroup) : List (Nat × Option String) :=
  match g.kind with
  | .capture index name => (index, name) :: g.outer.groups
  | .plain _ => g.outer.groups

end OpenGroup

namespace Draft

/-- The capturing groups so far, the open ones among them. -/
def groups (d : Draft) : List (Nat × Option String) :=
  d.level.groups ++ d.opened.flatMap OpenGroup.groups

/-- Every token but the start of a capturing group keeps the groups; that one adds a group with the
next index, under a name that is new. -/
theorem groups_add {d d' : Draft} {t : Token} (ht : t.isSimple) (h : d.add t = some d') :
    (d'.groups.Perm d.groups ∧ d'.captures = d.captures ∧ d'.names = d.names) ∨
      ∃ name : Option String, d'.groups.Perm ((d.captures + 1, name) :: d.groups) ∧
        d'.captures = d.captures + 1 ∧ d'.names = name.toList ++ d.names ∧
        ∀ n ∈ name, n ∉ d.names := by
  have hopen : ∀ name : Option String,
      (Level.empty.groups ++ ((d.captures + 1, name) :: d.level.groups ++
        d.opened.flatMap OpenGroup.groups)).Perm ((d.captures + 1, name) :: d.groups) :=
    fun _ => .refl _
  unfold add at h
  split at h
  · unfold openGroup at h
    split at h
    · obtain rfl := Option.some.inj h
      exact .inr ⟨none, hopen none, rfl, rfl, by simp⟩
    · rename_i name
      split at h
      · exact absurd h (by simp)
      · rename_i hnew
        obtain rfl := Option.some.inj h
        refine .inr ⟨some name, hopen (some name), rfl, rfl, fun n hn => ?_⟩
        obtain rfl := Option.some.inj hn
        simpa using hnew
    · obtain rfl := Option.some.inj h
      exact .inl ⟨.refl _, rfl, rfl⟩
  · obtain rfl := Option.some.inj h
    exact .inl ⟨.refl _, rfl, rfl⟩
  · split at h
    · exact absurd h (by simp)
    · rename_i g opened hopened
      obtain rfl := Option.some.inj h
      refine .inl ⟨?_, rfl, rfl⟩
      unfold groups
      rw [hopened, Level.groups_push, List.flatMap_cons]
      have hcontent := d.level.groups_content
      obtain ⟨kind, outer, verbose⟩ := g
      cases kind with
      | capture index name =>
        show ((index, name) :: (d.level.content.groups ++ outer.groups ++ _)).Perm
          (d.level.groups ++ ((index, name) :: (outer.groups ++ _)))
        rw [List.append_assoc]
        exact ((hcontent.append_right _).cons _).trans List.perm_middle.symm
      | plain changes =>
        show (d.level.content.groups ++ outer.groups ++ _).Perm
          (d.level.groups ++ (outer.groups ++ _))
        rw [List.append_assoc]
        exact hcontent.append_right _
  · obtain rfl := Option.some.inj h
    exact .inl ⟨d.level.groups_bar.append_right _, rfl, rfl⟩
  · obtain ⟨l, hl, rfl⟩ := Option.map_eq_some_iff.1 h
    refine .inl ⟨?_, rfl, rfl⟩
    unfold groups
    rw [Level.groups_repeatLast hl]
  · obtain rfl := Option.some.inj h
    refine .inl ⟨?_, rfl, rfl⟩
    unfold groups
    rw [Level.groups_push, Ast.groups_of_isPrimitive ht, List.nil_append]

/-- An index or a name stands for one group at most. -/
structure Numbered (d : Draft) : Prop where
  indices : (d.groups.map Prod.fst).Nodup
  names : (d.groups.filterMap Prod.snd).Nodup
  bound : ∀ g ∈ d.groups, 0 < g.1 ∧ g.1 ≤ d.captures
  named : ∀ n ∈ d.groups.filterMap Prod.snd, n ∈ d.names

theorem numbered_start (verbose : Bool) : (start verbose).Numbered :=
  ⟨.nil, .nil, by simp [groups, start, Level.groups, Level.empty],
    by simp [groups, start, Level.groups, Level.empty]⟩

theorem Numbered.add {d d' : Draft} {t : Token} (hd : d.Numbered) (ht : t.isSimple)
    (h : d.add t = some d') : d'.Numbered := by
  rcases groups_add ht h with ⟨hperm, hcaptures, hnames⟩ | ⟨name, hperm, hcaptures, hnames, hnew⟩
  · refine ⟨(hperm.map _).nodup_iff.mpr hd.indices, (hperm.filterMap _).nodup_iff.mpr hd.names,
      fun g hg => ?_, fun n hn => ?_⟩
    · rw [hcaptures]
      exact hd.bound g (hperm.mem_iff.mp hg)
    · rw [hnames]
      exact hd.named n ((hperm.filterMap _).mem_iff.mp hn)
  · refine ⟨(hperm.map _).nodup_iff.mpr ?_, (hperm.filterMap _).nodup_iff.mpr ?_,
      fun g hg => ?_, fun n hn => ?_⟩
    · refine List.nodup_cons.mpr ⟨fun hmem => ?_, hd.indices⟩
      obtain ⟨g, hg, hindex⟩ := List.mem_map.mp hmem
      have := (hd.bound g hg).2
      omega
    · cases name with
      | none => exact hd.names
      | some n => exact List.nodup_cons.mpr ⟨fun hmem => hnew n rfl (hd.named n hmem), hd.names⟩
    · rw [hcaptures]
      rcases List.mem_cons.mp (hperm.mem_iff.mp hg) with rfl | hg
      · exact ⟨Nat.succ_pos _, Nat.le_refl _⟩
      · exact ⟨(hd.bound g hg).1, Nat.le_succ_of_le (hd.bound g hg).2⟩
    · rw [hnames]
      have hn := (hperm.filterMap _).mem_iff.mp hn
      cases name with
      | none => exact hd.named n hn
      | some n' =>
        rcases List.mem_cons.mp hn with rfl | hn
        · exact List.mem_cons_self ..
        · exact List.mem_cons_of_mem _ (hd.named n hn)

theorem Lexed.numbered {d e : Draft} {cs : List Char} {o : Bool} (h : Lexed d cs e o)
    (hd : d.Numbered) : e.Numbered := by
  induction h with
  | blank _ => exact hd
  | token _ hw _ ha _ ih => exact ih (hd.add hw.isSimple ha)

end Draft

/-! ### Nodes -/

namespace Node

variable {n : Node} {i : Nat}

theorem ofAst_ofBranches (m : Mode) (branches : List Ast) (h : branches ≠ []) :
    ofAst m (.ofBranches branches) = ofBranches m branches := by
  rcases branches with _ | ⟨a, _ | ⟨b, branches⟩⟩
  · exact absurd rfl h
  · rfl
  · rfl

theorem captures_renumber (f : Nat → Nat) (n : Node) :
    (n.renumber f).captures = n.captures.map f := by
  induction n with
  | capture _ _ ih => exact congrArg (_ :: ·) ih
  | cat a b iha ihb => exact (congrArg₂ (· ++ ·) iha ihb).trans (List.map_append ..).symm
  | alt a b iha ihb => exact (congrArg₂ (· ++ ·) iha ihb).trans (List.map_append ..).symm
  | star _ _ ih => exact ih
  | plus _ _ ih => exact ih
  | _ => rfl

theorem mem_captures_optional {greedy : Bool} :
    i ∈ (optional greedy n).captures ↔ i ∈ n.captures := by
  cases greedy <;> simp [optional, captures]

theorem mem_captures_anyTurns {greedy : Bool} :
    i ∈ (anyTurns greedy n).captures ↔ i ∈ n.captures := by
  unfold anyTurns
  split
  · exact mem_captures_optional (n := .plus greedy n)
  · rfl

theorem mem_captures_turns (k : Nat) : i ∈ (turns n k).captures ↔ i ∈ n.captures := by
  induction k with
  | zero => rfl
  | succ k ih => rw [turns, captures, List.mem_append, ih, or_self]

theorem captures_upTo {greedy : Bool} {k : Nat} (h : i ∈ (upTo greedy n k).captures) :
    i ∈ n.captures := by
  have hfew : ∀ k, i ∈ (fewUpTo n k).captures → i ∈ n.captures := by
    intro k
    induction k with
    | zero => exact fun h => absurd h (List.not_mem_nil)
    | succ k ih => exact fun h => (List.mem_append.mp (mem_captures_optional.mp h)).elim id ih
  have hmany : ∀ k, i ∈ (manyUpTo n k).captures → i ∈ n.captures := by
    intro k
    induction k with
    | zero => exact mem_captures_optional.mp
    | succ k ih => exact fun h => (List.mem_append.mp h).elim ih mem_captures_optional.mp
  cases k with
  | zero => exact absurd h (List.not_mem_nil)
  | succ k =>
    cases greedy with
    | false => exact hfew (k + 1) h
    | true => exact hmany k h

theorem captures_repetition {least : Nat} {most : Option Nat} {greedy : Bool}
    (h : i ∈ (repetition least most greedy n).captures) : i ∈ n.captures := by
  unfold repetition at h
  split at h
  · split at h
    · exact absurd h (List.not_mem_nil)
    · split at h
      · exact mem_captures_optional.mp h
      · exact h
  · split at h
    · exact captures_upTo h
    · split at h
      · exact (mem_captures_turns _).mp h
      · exact (List.mem_append.mp h).elim (mem_captures_turns _).mp captures_upTo
    · exact mem_captures_anyTurns.mp h
    · exact h
    · exact (List.mem_append.mp h).elim (mem_captures_turns _).mp id

mutual
/-- The groups that take part are groups of the pattern. -/
theorem captures_ofAst {n : Node} {m m' : Mode} {a : Ast} (h : ofAst m a = some (n, m')) :
    ∀ i ∈ n.captures, i ∈ a.groups.map Prod.fst := by
  match a with
  | .empty | .flags _ | .assertion _ =>
    obtain ⟨rfl, -⟩ := Prod.mk.inj (Option.some.inj h)
    exact fun i hi => absurd hi (List.not_mem_nil)
  | .dot =>
    have h : (if m.unicode then some (Node.set _, m) else none) = some (n, m') := h
    split at h
    · obtain ⟨rfl, -⟩ := Prod.mk.inj (Option.some.inj h)
      exact fun i hi => absurd hi (List.not_mem_nil)
    · exact absurd h (by simp)
  | .literal c byte =>
    obtain ⟨n', hn, heq⟩ := Option.map_eq_some_iff.1 h
    obtain ⟨rfl, -⟩ := Prod.mk.inj heq
    unfold ofLiteral at hn
    split at hn
    · exact absurd hn (by simp)
    · obtain rfl := Option.some.inj hn
      exact fun i hi => absurd hi (List.not_mem_nil)
  | .set s =>
    obtain ⟨s', -, heq⟩ := Option.map_eq_some_iff.1 h
    obtain ⟨rfl, -⟩ := Prod.mk.inj heq
    exact fun i hi => absurd hi (List.not_mem_nil)
  | .repetition least most greedy inner =>
    obtain ⟨⟨n', m''⟩, hinner, heq⟩ := Option.map_eq_some_iff.1 h
    obtain ⟨rfl, -⟩ := Prod.mk.inj heq
    exact fun i hi => captures_ofAst hinner i (captures_repetition hi)
  | .group (.capture index name) inner =>
    obtain ⟨⟨n', m''⟩, hinner, heq⟩ := Option.map_eq_some_iff.1 h
    obtain ⟨rfl, -⟩ := Prod.mk.inj heq
    intro i hi
    rcases List.mem_cons.mp hi with rfl | hi
    · exact List.mem_cons_self ..
    · exact List.mem_cons_of_mem _ (captures_ofAst hinner i hi)
  | .group (.plain changes) inner =>
    obtain ⟨⟨n', m''⟩, hinner, heq⟩ := Option.map_eq_some_iff.1 h
    obtain ⟨rfl, -⟩ := Prod.mk.inj heq
    exact fun i hi => captures_ofAst (a := inner) hinner i hi
  | .alternation branches => exact captures_ofBranches h
  | .concat items => exact captures_ofItems h

theorem captures_ofItems {n : Node} {m m' : Mode} {items : List Ast} (h : ofItems m items = some (n, m')) :
    ∀ i ∈ n.captures, i ∈ (Ast.groupsOf items).map Prod.fst := by
  match items with
  | [] =>
    obtain ⟨rfl, -⟩ := Prod.mk.inj (Option.some.inj h)
    exact fun i hi => absurd hi (List.not_mem_nil)
  | a :: items =>
    obtain ⟨⟨first, m₁⟩, hfirst, hrest⟩ := Option.bind_eq_some_iff.1 h
    intro i hi
    rw [Ast.groupsOf, List.map_append, List.mem_append]
    rcases captures_ofItemsAfter hrest i hi with hi | hi
    · exact .inl (captures_ofAst hfirst i hi)
    · exact .inr hi

theorem captures_ofItemsAfter {first n : Node} {m m' : Mode} {items : List Ast}
    (h : ofItemsAfter first m items = some (n, m')) :
    ∀ i ∈ n.captures, i ∈ first.captures ∨ i ∈ (Ast.groupsOf items).map Prod.fst := by
  match items with
  | [] =>
    obtain ⟨rfl, -⟩ := Prod.mk.inj (Option.some.inj h)
    exact fun i hi => .inl hi
  | a :: items =>
    obtain ⟨⟨second, m₁⟩, hsecond, hrest⟩ := Option.bind_eq_some_iff.1 h
    intro i hi
    rw [Ast.groupsOf, List.map_append, List.mem_append]
    rcases captures_ofItemsAfter hrest i hi with hi | hi
    · exact (List.mem_append.mp hi).imp_right fun hi => .inl (captures_ofAst hsecond i hi)
    · exact .inr (.inr hi)

theorem captures_ofBranches {n : Node} {m m' : Mode} {branches : List Ast}
    (h : ofBranches m branches = some (n, m')) :
    ∀ i ∈ n.captures, i ∈ (Ast.groupsOf branches).map Prod.fst := by
  match branches with
  | [] =>
    obtain ⟨rfl, -⟩ := Prod.mk.inj (Option.some.inj h)
    exact fun i hi => absurd hi (List.not_mem_nil)
  | [a] =>
    intro i hi
    rw [Ast.groupsOf, List.map_append, List.mem_append]
    exact .inl (captures_ofAst h i hi)
  | a :: b :: branches =>
    obtain ⟨⟨first, m₁⟩, hfirst, hrest⟩ := Option.bind_eq_some_iff.1 h
    obtain ⟨⟨second, m₂⟩, hsecond, heq⟩ := Option.bind_eq_some_iff.1 hrest
    obtain ⟨rfl, -⟩ := Prod.mk.inj (Option.some.inj heq)
    intro i hi
    rw [Ast.groupsOf, List.map_append, List.mem_append]
    rcases List.mem_append.mp hi with hi | hi
    · exact .inl (captures_ofAst hfirst i hi)
    · exact .inr (captures_ofBranches hsecond i hi)
end

end Node
end Gazetteer.Regex
