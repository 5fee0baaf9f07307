import Gazetteer.Proofs.Group.Source
import Gazetteer.Proofs.Matching.Search

/-! The choice between the terms of a group.

At each place the first term whose body matches there wins. The pattern of a group makes the same
choice (`Part.choice`): its preferred thread is that of the winner's body, and of the groups
around the bodies it captures the winner's only. -/
namespace Gazetteer.Regex

/-- The first of the bodies that matches at a place, with the extent of its own match. -/
def winner? : List Regex → Cursor → Option (Nat × Extent)
  | [], _ => none
  | r :: bodies, p =>
    match r.matchAt p with
    | some m => some (0, m.extent)
    | none => (winner? bodies p).map fun w => (w.1 + 1, w.2)

/-- The winner is the first body that matches, and its match is its own. -/
theorem winner?_eq_some_iff {bodies : List Regex} {p : Cursor} {i : Nat} {x : Extent} :
    winner? bodies p = some (i, x) ↔
      (∃ r m, bodies[i]? = some r ∧ r.matchAt p = some m ∧ m.extent = x) ∧
        ∀ j r, j < i → bodies[j]? = some r → r.matchAt p = none := by
  induction bodies generalizing i with
  | nil => simp [winner?]
  | cons r bodies ih =>
    rw [winner?]
    cases hmatch : r.matchAt p with
    | some m =>
      constructor
      · intro h
        obtain ⟨rfl, rfl⟩ := Prod.mk.inj (Option.some.inj h)
        exact ⟨⟨r, m, rfl, hmatch, rfl⟩, fun j _ hj => absurd hj (Nat.not_lt_zero j)⟩
      · rintro ⟨⟨r', m', hr, hm, rfl⟩, hbefore⟩
        cases i with
        | zero =>
          obtain rfl : r = r' := Option.some.inj hr
          rw [hmatch] at hm
          rw [Option.some.inj hm]
        | succ i =>
          have := hbefore 0 r (Nat.succ_pos i) rfl
          rw [hmatch] at this
          exact absurd this (by simp)
    | none =>
      constructor
      · intro h
        obtain ⟨⟨i', x'⟩, hw, heq⟩ := Option.map_eq_some_iff.mp h
        obtain ⟨rfl, rfl⟩ := Prod.mk.inj heq
        obtain ⟨⟨r', m, hr, hm, hx⟩, hbefore⟩ := ih.mp hw
        refine ⟨⟨r', m, by simpa using hr, hm, hx⟩, fun j r'' hj hr'' => ?_⟩
        cases j with
        | zero =>
          obtain rfl : r = r'' := Option.some.inj hr''
          exact hmatch
        | succ j => exact hbefore j r'' (Nat.lt_of_succ_lt_succ hj) (by simpa using hr'')
      · rintro ⟨⟨r', m, hr, hm, hx⟩, hbefore⟩
        cases i with
        | zero =>
          obtain rfl : r = r' := Option.some.inj hr
          rw [hmatch] at hm
          exact absurd hm (by simp)
        | succ i =>
          have hw := ih.mpr ⟨⟨r', m, by simpa using hr, hm, hx⟩, fun j r'' hj hr'' =>
            hbefore (j + 1) r'' (Nat.succ_lt_succ hj) (by simpa using hr'')⟩
          rw [hw]
          rfl

theorem winner?_eq_none_iff {bodies : List Regex} {p : Cursor} :
    winner? bodies p = none ↔ ∀ r ∈ bodies, r.matchAt p = none := by
  induction bodies with
  | nil => simp [winner?]
  | cons r bodies ih =>
    rw [winner?, List.forall_mem_cons]
    cases r.matchAt p with
    | some m => simp
    | none => simp [ih]

theorem Thread.isSome_captured? (t : Thread) (i : Nat) :
    (t.captured? i).isSome ↔ i ∈ t.captured.map Prod.fst := by
  unfold captured?
  rw [Option.isSome_map, List.find?_isSome, List.mem_map]
  exact ⟨fun ⟨c, hc, h⟩ => ⟨c, hc, by simpa using h⟩, fun ⟨c, hc, h⟩ => ⟨c, hc, by simpa using h⟩⟩

namespace Part

variable {verbose : Bool} {m : Mode}

/-- The regex has the node of the part's body. -/
def IsBody (m : Mode) (p : Part verbose) (r : Regex) : Prop :=
  ∃ m', Node.ofAst m p.ast = some (r.node, m')

theorem groups_ast (p : Part verbose) : ∀ g ∈ p.ast.groups, 0 < g.1 ∧ g.1 ≤ p.draft.captures := by
  intro g hg
  have hnumbered := p.lexed.numbered (Draft.numbered_start verbose)
  refine hnumbered.bound g (List.mem_append_left _ ?_)
  exact p.draft.level.groups_content.mem_iff.mp hg

theorem captures_body {p : Part verbose} {r : Regex} (h : p.IsBody m r) :
    ∀ i ∈ r.node.captures, 0 < i ∧ i ≤ p.draft.captures := by
  intro i hi
  obtain ⟨m', hnode⟩ := h
  obtain ⟨g, hg, rfl⟩ := List.mem_map.mp (Node.captures_ofAst hnode i hi)
  exact p.groups_ast g hg

/-- The node of a part's branch. -/
def node (k : Nat) (r : Regex) : Node := .capture (k + 1) (r.node.renumber (k + 1 + ·))

theorem ofAst_branch {p : Part verbose} {r : Regex} (h : p.IsBody m r) (k : Nat) :
    Node.ofAst m (p.branch k) = some (node k r, m) := by
  obtain ⟨m', hnode⟩ := h
  show (Node.ofAst m (p.ast.renumber _)).map _ = _
  rw [Node.ofAst_renumber, hnode]
  rfl

theorem captures_node {p : Part verbose} {r : Regex} (h : p.IsBody m r) (k : Nat) :
    ∀ i ∈ (node k r).captures, k < i ∧ i ≤ k + 1 + p.draft.captures := by
  intro i hi
  rcases List.mem_cons.mp hi with rfl | hi
  · omega
  · rw [Node.captures_renumber] at hi
    obtain ⟨j, hj, rfl⟩ := List.mem_map.mp hi
    have := captures_body h j hj
    omega

/-- The preferred thread of a part's branch is that of its body. -/
theorem head?_node (k : Nat) (r : Regex) (c : Cursor) :
    ((node k r).outcomes c).head? = (r.node.outcomes c).head?.map fun t =>
      ⟨t.place, (k + 1, ⟨c.offset, t.place.offset⟩) :: renumbered (k + 1 + ·) t.captured,
        t.trail⟩ := by
  unfold node
  rw [Node.outcomes_capture, Node.outcomes_renumber, List.map_map, List.head?_map]
  rfl

theorem matchAt_eq_none_of_node {k : Nat} {r : Regex} {c : Cursor}
    (h : ((node k r).outcomes c).head? = none) : r.matchAt c = none := by
  rw [head?_node] at h
  rw [matchAt_eq, Option.map_eq_none_iff.mp h]
  rfl

/-- What the preferred thread `t` at a place says of the winner there. -/
structure Won (slots : List Nat) (c : Cursor) (i : Nat) (x : Extent) (t : Thread) : Prop where
  extent : x = ⟨c.offset, t.place.offset⟩
  slot : ∃ s, slots[i]? = some s ∧ t.captured? s = some x ∧
    ∀ s' ∈ slots, (t.captured? s').isSome → s' = s

/-- The preferred thread, if there is one, is the winner's. -/
def Chooses (slots : List Nat) (bodies : List Regex) (c : Cursor) : Option Thread → Prop
  | none => winner? bodies c = none
  | some t => ∃ i x, winner? bodies c = some (i, x) ∧ Won slots c i x t

theorem chooses_node {p : Part verbose} {r : Regex} (h : p.IsBody m r) (k : Nat)
    {slots : List Nat} (hslots : ∀ s ∈ slots, k + 1 + p.draft.captures < s) {bodies : List Regex}
    {c : Cursor} {t : Thread} (ht : ((node k r).outcomes c).head? = some t) :
    Chooses ((k + 1) :: slots) (r :: bodies) c (some t) := by
  have hkeys := (Node.leads_of_mem_outcomes (List.mem_of_mem_head? ht)).2
  rw [head?_node] at ht
  obtain ⟨u, hu, rfl⟩ := Option.map_eq_some_iff.mp ht
  refine ⟨0, ⟨c.offset, u.place.offset⟩, ?_, rfl, k + 1, rfl, by simp [Thread.captured?], ?_⟩
  · rw [winner?, matchAt_eq, hu]
    rfl
  · intro s hs hcaptured
    rcases List.mem_cons.mp hs with rfl | hs
    · rfl
    · obtain ⟨g, hg, rfl⟩ := List.mem_map.mp ((Thread.isSome_captured? _ _).mp hcaptured)
      have hle := (captures_node h k g.1 (hkeys g hg)).2
      exact absurd (hslots _ hs) (Nat.not_lt_of_le hle)

/-- A pattern that is the choice between parts prefers at each place the first part whose body
matches there. -/
theorem choice {parts : List (Part verbose)} {bodies : List Regex}
    (h : List.Forall₂ (IsBody m) parts bodies) (hne : parts ≠ []) (k : Nat) :
    ∃ n, Node.ofBranches m (branches k parts) = some (n, m) ∧
      (∀ s ∈ slots k parts, s ∈ n.captures) ∧ (∀ i ∈ n.captures, k < i) ∧
      ∀ c, Chooses (slots k parts) bodies c (n.outcomes c).head? := by
  induction h generalizing k with
  | nil => exact absurd rfl hne
  | @cons p r parts bodies hp hparts ih =>
    cases parts with
    | nil =>
      cases hparts
      refine ⟨node k r, ofAst_branch hp k, by simp [slots, node, Node.captures],
        fun i hi => (captures_node hp k i hi).1, fun c => ?_⟩
      cases hhead : ((node k r).outcomes c).head? with
      | some t => exact chooses_node hp k (fun s hs => absurd hs (List.not_mem_nil)) hhead
      | none => exact winner?_eq_none_iff.mpr (by simpa using matchAt_eq_none_of_node hhead)
    | cons q parts =>
      obtain ⟨n, hn, hslots, hbound, hchoice⟩ := ih (by simp) (k + 1 + p.draft.captures)
      have hlater : ∀ s ∈ slots (k + 1 + p.draft.captures) (q :: parts),
          k + 1 + p.draft.captures < s := fun s hs => lt_of_mem_slots hs
      refine ⟨.alt (node k r) n, ?_, fun s hs => ?_, fun i hi => ?_, fun c => ?_⟩
      · show (Node.ofAst m (p.branch k)).bind _ = _
        rw [ofAst_branch hp k]
        show (Node.ofBranches m (branches _ (q :: parts))).bind _ = _
        rw [hn]
        rfl
      · rcases List.mem_cons.mp hs with rfl | hs
        · exact List.mem_append_left _ (List.mem_cons_self ..)
        · exact List.mem_append_right _ (hslots s hs)
      · rcases List.mem_append.mp hi with hi | hi
        · exact (captures_node hp k i hi).1
        · have := hbound i hi
          omega
      · rw [Node.outcomes_alt, Thread.head?_firsts, List.head?_append]
        cases hhead : ((node k r).outcomes c).head? with
        | some t => exact chooses_node hp k hlater hhead
        | none =>
          have hnone : r.matchAt c = none := matchAt_eq_none_of_node hhead
          have hrest := hchoice c
          rw [Option.none_or]
          cases hn : (n.outcomes c).head? with
          | none =>
            rw [hn] at hrest
            show winner? (r :: bodies) c = none
            rw [winner?, hnone]
            simp only
            rw [show winner? bodies c = none from hrest]
            rfl
          | some t =>
            rw [hn] at hrest
            obtain ⟨i, x, hwinner, hextent, s, hs, hcaptured, honly⟩ := hrest
            refine ⟨i + 1, x, ?_, hextent, s, by simpa [slots] using hs, hcaptured, fun s' hs' hc => ?_⟩
            · rw [winner?, hnone]
              simp only
              rw [hwinner]
              rfl
            · rcases List.mem_cons.mp hs' with rfl | hs'
              · obtain ⟨g, hg, hindex⟩ := List.mem_map.mp ((Thread.isSome_captured? _ _).mp hc)
                have hkeys := (Node.leads_of_mem_outcomes (List.mem_of_mem_head? hn)).2 g hg
                have := hbound _ hkeys
                omega
              · exact honly s' hs' hc

end Part
end Gazetteer.Regex
