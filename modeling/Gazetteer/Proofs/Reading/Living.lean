import Gazetteer.Proofs.Reading.Groups

/-! The groups that take part.

A group that is repeated no times is in the text of a pattern but not in its node, and that is the
only way for a group to get lost: the groups of the node are those of the text that are not within
such a repetition (`Ast.keeps_of_read`). It rests on the counts of a repetition being in order,
which the reader of tokens sees to. -/
namespace Gazetteer.Regex

/-! ### Patterns -/

namespace Ast

mutual
/-- The capturing groups of a pattern that are not repeated no times. -/
def living : Ast → List (Nat × Option String)
  | .repetition _ most _ inner => if most = some 0 then [] else living inner
  | .group (.capture index name) inner => (index, name) :: living inner
  | .group (.plain _) inner => living inner
  | .alternation branches => livingOf branches
  | .concat items => livingOf items
  | _ => []

def livingOf : List Ast → List (Nat × Option String)
  | [] => []
  | part :: parts => living part ++ livingOf parts
end

theorem livingOf_eq_flatMap (parts : List Ast) : livingOf parts = parts.flatMap living := by
  induction parts with
  | nil => rfl
  | cons part parts ih => rw [livingOf, ih, List.flatMap_cons]

theorem living_ofBranches (branches : List Ast) :
    (ofBranches branches).living = branches.flatMap living := by
  rcases branches with _ | ⟨a, _ | ⟨b, branches⟩⟩
  · rfl
  · simp [ofBranches]
  · exact livingOf_eq_flatMap _

mutual
theorem living_sublist (a : Ast) : a.living.Sublist a.groups := by
  match a with
  | .repetition _ most _ inner =>
    unfold living groups
    split
    · exact List.nil_sublist _
    · exact living_sublist inner
  | .group (.capture _ _) inner => exact (living_sublist inner).cons_cons _
  | .group (.plain _) inner => exact living_sublist inner
  | .alternation branches => exact livingOf_sublist branches
  | .concat items => exact livingOf_sublist items
  | .empty | .flags _ | .literal _ _ | .dot | .assertion _ | .set _ => exact .refl _

theorem livingOf_sublist (parts : List Ast) : (livingOf parts).Sublist (groupsOf parts) := by
  match parts with
  | [] => exact .refl _
  | part :: parts => exact (living_sublist part).append (livingOf_sublist parts)
end

end Ast

/-! ### Repetitions in nodes -/

namespace Node

variable {n : Node} {i : Nat}

theorem mem_captures_upTo {greedy : Bool} (k : Nat) :
    i ∈ (upTo greedy n (k + 1)).captures ↔ i ∈ n.captures := by
  refine ⟨captures_upTo, fun h => ?_⟩
  cases greedy with
  | true =>
    cases k with
    | zero =>
      show i ∈ (optional true n).captures
      exact mem_captures_optional.mpr h
    | succ k => exact List.mem_append_right _ (mem_captures_optional.mpr h)
  | false =>
    show i ∈ (optional false (.cat n (fewUpTo n k))).captures
    exact mem_captures_optional.mpr (List.mem_append_left _ h)

/-- A repetition with counts in order keeps the groups, unless it allows no turn. -/
theorem mem_captures_repetition {least : Nat} {most : Option Nat} {greedy : Bool}
    (h : ∀ k ∈ most, least ≤ k) :
    i ∈ (repetition least most greedy n).captures ↔ most ≠ some 0 ∧ i ∈ n.captures := by
  by_cases hmost : most = some 0
  · subst hmost
    obtain rfl : least = 0 := Nat.le_zero.mp (h 0 rfl)
    have hnone : repetition 0 (some 0) greedy n = .empty := by
      unfold repetition
      cases n.isEmptyOnly <;> rfl
    simp [hnone, captures]
  refine ⟨fun hi => ⟨hmost, captures_repetition hi⟩, fun h => ?_⟩
  have hi := h.2
  unfold repetition
  split
  · rw [if_neg (by simpa using hmost)]
    split
    · exact mem_captures_optional.mpr hi
    · exact hi
  · split
    · obtain ⟨k, rfl⟩ := Nat.exists_eq_succ_of_ne_zero fun hzero => hmost (congrArg some hzero)
      exact (mem_captures_upTo k).mpr hi
    · split
      · exact (mem_captures_turns _).mpr hi
      · exact List.mem_append_left _ ((mem_captures_turns _).mpr hi)
    · exact mem_captures_anyTurns.mpr hi
    · exact hi
    · exact List.mem_append_right _ hi

end Node

/-! ### From patterns to nodes -/

namespace Ast

variable {a : Ast} {items branches : List Ast}

/-- Whatever flags are in force, the groups of the pattern's node are the living ones. -/
def Keeps (a : Ast) : Prop :=
  ∀ m n m', Node.ofAst m a = some (n, m') → ∀ i, i ∈ n.captures ↔ i ∈ a.living.map Prod.fst

theorem keeps_empty : empty.Keeps := by
  intro m n m' h i
  obtain ⟨rfl, -⟩ := Prod.mk.inj (Option.some.inj h)
  rfl

theorem keeps_flags (changes : FlagChanges) : (flags changes).Keeps := by
  intro m n m' h i
  obtain ⟨rfl, -⟩ := Prod.mk.inj (Option.some.inj h)
  rfl

theorem keeps_of_isPrimitive (h : a.isPrimitive) : a.Keeps := by
  intro m n m' hn i
  have hgroups := groups_of_isPrimitive h
  have hliving : a.living = [] := List.sublist_nil.mp (hgroups ▸ living_sublist a)
  have hcaptures := Node.captures_ofAst hn i
  rw [hgroups] at hcaptures
  rw [hliving]
  exact ⟨hcaptures, fun hi => absurd hi List.not_mem_nil⟩

theorem keeps_capture (index : Nat) (name : Option String) (h : a.Keeps) :
    (group (.capture index name) a).Keeps := by
  intro m n m' hn i
  obtain ⟨⟨n', m''⟩, hinner, heq⟩ := Option.map_eq_some_iff.mp hn
  obtain ⟨rfl, -⟩ := Prod.mk.inj heq
  rw [Node.captures, living, List.map_cons, List.mem_cons, List.mem_cons, h m n' m'' hinner i]

theorem keeps_plain (changes : FlagChanges) (h : a.Keeps) : (group (.plain changes) a).Keeps := by
  intro m n m' hn i
  obtain ⟨⟨n', m''⟩, hinner, heq⟩ := Option.map_eq_some_iff.mp hn
  obtain ⟨rfl, -⟩ := Prod.mk.inj heq
  exact h _ n' m'' hinner i

theorem keeps_repetition {least : Nat} {most : Option Nat} (greedy : Bool)
    (hcounts : ∀ k ∈ most, least ≤ k) (h : a.Keeps) :
    (repetition least most greedy a).Keeps := by
  intro m n m' hn i
  obtain ⟨⟨n', m''⟩, hinner, heq⟩ := Option.map_eq_some_iff.mp hn
  obtain ⟨rfl, -⟩ := Prod.mk.inj heq
  rw [Node.mem_captures_repetition hcounts, h m n' m'' hinner i, living]
  split
  · rename_i hmost
    simp [hmost]
  · rename_i hmost
    simp [hmost]

theorem keeps_concat (h : ∀ a ∈ items, a.Keeps) : (concat items).Keeps := by
  have hafter : ∀ (items : List Ast), (∀ a ∈ items, a.Keeps) → ∀ (first : Node) m n m',
      Node.ofItemsAfter first m items = some (n, m') → ∀ i,
        i ∈ n.captures ↔ i ∈ first.captures ∨ i ∈ (livingOf items).map Prod.fst := by
    intro items
    induction items with
    | nil =>
      intro _ first m n m' hn i
      obtain ⟨rfl, -⟩ := Prod.mk.inj (Option.some.inj hn)
      simp [livingOf]
    | cons a items ih =>
      intro h first m n m' hn i
      obtain ⟨ha, hitems⟩ := List.forall_mem_cons.mp h
      obtain ⟨⟨second, m₁⟩, hsecond, hrest⟩ := Option.bind_eq_some_iff.mp hn
      rw [ih hitems _ m₁ n m' hrest i, Node.captures, List.mem_append, ha m second m₁ hsecond i,
        livingOf, List.map_append, List.mem_append, or_assoc]
  intro m n m' hn i
  cases items with
  | nil =>
    obtain ⟨rfl, -⟩ := Prod.mk.inj (Option.some.inj hn)
    rfl
  | cons a items =>
    obtain ⟨ha, hitems⟩ := List.forall_mem_cons.mp h
    obtain ⟨⟨first, m₁⟩, hfirst, hrest⟩ := Option.bind_eq_some_iff.mp hn
    rw [hafter items hitems first m₁ n m' hrest i, ha m first m₁ hfirst i, living, livingOf,
      List.map_append, List.mem_append]

theorem keeps_alternation (h : ∀ a ∈ branches, a.Keeps) : (alternation branches).Keeps := by
  intro m n m' hn i
  have hn : Node.ofBranches m branches = some (n, m') := hn
  rw [living]
  induction branches generalizing m n m' with
  | nil =>
    obtain ⟨rfl, -⟩ := Prod.mk.inj (Option.some.inj hn)
    rfl
  | cons a branches ih =>
    obtain ⟨ha, hbranches⟩ := List.forall_mem_cons.mp h
    rw [livingOf, List.map_append, List.mem_append]
    cases branches with
    | nil =>
      rw [ha m n m' hn i]
      simp [livingOf]
    | cons b branches =>
      obtain ⟨⟨first, m₁⟩, hfirst, hrest⟩ := Option.bind_eq_some_iff.mp hn
      obtain ⟨⟨second, m₂⟩, hsecond, heq⟩ := Option.bind_eq_some_iff.mp hrest
      obtain ⟨rfl, -⟩ := Prod.mk.inj (Option.some.inj heq)
      rw [Node.captures, List.mem_append, ha m first m₁ hfirst i]
      exact or_congr_right (ih hbranches m₁ second m₂ hsecond hsecond)

theorem keeps_ofItems (h : ∀ a ∈ items, a.Keeps) : (ofItems items).Keeps := by
  rcases items with _ | ⟨a, _ | ⟨b, items⟩⟩
  · exact keeps_empty
  · exact h a List.mem_cons_self
  · exact keeps_concat h

theorem keeps_ofBranches (h : ∀ a ∈ branches, a.Keeps) : (ofBranches branches).Keeps := by
  rcases branches with _ | ⟨a, _ | ⟨b, branches⟩⟩
  · exact keeps_alternation h
  · exact h a List.mem_cons_self
  · exact keeps_alternation h

end Ast

/-! ### Reading -/

namespace Token

theorem le_of_readCounts {verbose : Bool} {cs rest : List Char} {least : Nat} {most : Option Nat}
    (h : readCounts verbose cs = some (least, most, rest)) : ∀ k ∈ most, least ≤ k := by
  unfold readCounts at h
  obtain ⟨⟨n, mid⟩, -, h⟩ := Option.bind_eq_some_iff.mp h
  simp only at h
  split at h
  · obtain ⟨rfl, rfl, -⟩ : n = least ∧ some n = most ∧ _ = rest := by simpa using h
    exact fun k hk => Nat.le_of_eq (Option.some.inj hk)
  · split at h
    · obtain ⟨-, rfl, -⟩ : n = least ∧ none = most ∧ _ = rest := by simpa using h
      exact fun k hk => absurd hk (by simp)
    · obtain ⟨⟨k, mid'⟩, -, h⟩ := Option.bind_eq_some_iff.mp h
      simp only at h
      split at h
      · split at h
        · rename_i hle
          obtain ⟨rfl, rfl, -⟩ : n = least ∧ some k = most ∧ _ = rest := by simpa using h
          exact fun k' hk' => Option.some.inj hk' ▸ hle
        · exact absurd h (by simp)
      · exact absurd h (by simp)
  · exact absurd h (by simp)

/-- The counts of the repetition that the token is, if it is one, are in order. -/
def InOrder : Token → Prop
  | .repetition least most _ => ∀ k ∈ most, least ≤ k
  | _ => True

theorem Lexeme.inOrder {verbose : Bool} {tl w : List Char} {t : Token}
    (h : Lexeme verbose tl w t) : t.InOrder := by
  have hmark : ∀ {c : Char} {least : Nat} {most : Option Nat}, mark? c = some (least, most) →
      ∀ k ∈ most, least ≤ k := by
    intro c least most hc
    unfold mark? at hc
    split at hc
    · obtain ⟨rfl, rfl⟩ := Prod.mk.inj (Option.some.inj hc)
      exact fun k _ => Nat.zero_le k
    · obtain ⟨rfl, rfl⟩ := Prod.mk.inj (Option.some.inj hc)
      exact nofun
    · obtain ⟨rfl, rfl⟩ := Prod.mk.inj (Option.some.inj hc)
      exact nofun
    · exact absurd hc (by simp)
  cases h with
  | many hc _ => exact hmark hc
  | few hc => exact hmark hc
  | countedMany hk _ => exact le_of_readCounts (hk.reads [])
  | countedFew hk _ => exact le_of_readCounts (hk.reads [])
  | group _ hh => rcases hh.opens with ⟨_, rfl⟩ | ⟨_, rfl⟩ <;> trivial
  | _ => trivial

end Token

namespace Level

def Keeps (l : Level) : Prop := (∀ a ∈ l.items, a.Keeps) ∧ ∀ a ∈ l.branches, a.Keeps

theorem keeps_empty : empty.Keeps := ⟨nofun, nofun⟩

variable {l l' : Level}

theorem Keeps.push {a : Ast} (h : l.Keeps) (ha : a.Keeps) : (l.push a).Keeps :=
  ⟨List.forall_mem_cons.mpr ⟨ha, h.1⟩, h.2⟩

theorem Keeps.branch (h : l.Keeps) : l.branch.Keeps :=
  Ast.keeps_ofItems fun a ha => h.1 a (List.mem_reverse.mp ha)

theorem Keeps.bar (h : l.Keeps) : l.bar.Keeps :=
  ⟨nofun, List.forall_mem_cons.mpr ⟨h.branch, h.2⟩⟩

theorem Keeps.content (h : l.Keeps) : l.content.Keeps :=
  Ast.keeps_ofBranches fun a ha => h.bar.2 a (List.mem_reverse.mp ha)

theorem Keeps.repeatLast {least : Nat} {most : Option Nat} {greedy : Bool} (h : l.Keeps)
    (hcounts : ∀ k ∈ most, least ≤ k) (hl : l.repeatLast least most greedy = some l') :
    l'.Keeps := by
  unfold Level.repeatLast at hl
  split at hl
  · exact absurd hl (by simp)
  · rename_i a items hitems
    split at hl
    · obtain rfl := Option.some.inj hl
      obtain ⟨ha, hrest⟩ := List.forall_mem_cons.mp (hitems ▸ h.1)
      exact ⟨List.forall_mem_cons.mpr ⟨Ast.keeps_repetition greedy hcounts ha, hrest⟩, h.2⟩
    · exact absurd hl (by simp)

end Level

namespace Draft

/-- What was read of the open groups and around them keeps its groups. -/
def Keeps (d : Draft) : Prop := d.level.Keeps ∧ ∀ g ∈ d.opened, g.outer.Keeps

theorem Keeps.add {d d' : Draft} {t : Token} (h : d.Keeps) (ht : t.isSimple) (hcounts : t.InOrder)
    (ha : d.add t = some d') : d'.Keeps := by
  obtain ⟨hlevel, houter⟩ := h
  unfold Draft.add at ha
  split at ha
  · unfold openGroup at ha
    split at ha
    · obtain rfl := Option.some.inj ha
      exact ⟨Level.keeps_empty, List.forall_mem_cons.mpr ⟨hlevel, houter⟩⟩
    · split at ha
      · exact absurd ha (by simp)
      · obtain rfl := Option.some.inj ha
        exact ⟨Level.keeps_empty, List.forall_mem_cons.mpr ⟨hlevel, houter⟩⟩
    · obtain rfl := Option.some.inj ha
      exact ⟨Level.keeps_empty, List.forall_mem_cons.mpr ⟨hlevel, houter⟩⟩
  · obtain rfl := Option.some.inj ha
    exact ⟨hlevel.push (Ast.keeps_flags _), houter⟩
  · split at ha
    · exact absurd ha (by simp)
    · rename_i g opened hopened
      obtain rfl := Option.some.inj ha
      obtain ⟨hg, hrest⟩ := List.forall_mem_cons.mp (hopened ▸ houter)
      obtain ⟨kind, outer, verbose⟩ := g
      cases kind with
      | capture index name =>
        exact ⟨hg.push (Ast.keeps_capture index name hlevel.content), hrest⟩
      | plain changes => exact ⟨hg.push (Ast.keeps_plain changes hlevel.content), hrest⟩
  · obtain rfl := Option.some.inj ha
    exact ⟨hlevel.bar, houter⟩
  · obtain ⟨l, hl, rfl⟩ := Option.map_eq_some_iff.mp ha
    exact ⟨hlevel.repeatLast hcounts hl, houter⟩
  · obtain rfl := Option.some.inj ha
    exact ⟨hlevel.push (Ast.keeps_of_isPrimitive ht), houter⟩

theorem Lexed.keeps {d e : Draft} {cs : List Char} {o : Bool} (h : Lexed d cs e o)
    (hd : d.Keeps) : e.Keeps := by
  induction h with
  | blank _ => exact hd
  | token _ hw _ ha _ ih => exact ih (hd.add hw.isSimple hw.inOrder ha)

end Draft

/-- The groups of the node of a pattern are those that are not repeated no times. -/
theorem Ast.keeps_of_read {verbose : Bool} {pattern : String} {a : Ast}
    (h : Ast.read verbose pattern = some a) : a.Keeps := by
  obtain ⟨-, e, o, hlexed, -, rfl⟩ := Ast.read_eq_some h
  have hstart : (Draft.start verbose).Keeps := ⟨Level.keeps_empty, nofun⟩
  exact (hlexed.keeps hstart).1.content

end Gazetteer.Regex
