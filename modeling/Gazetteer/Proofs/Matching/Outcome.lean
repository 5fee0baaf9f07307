import Mathlib.Data.List.Forall2
import Gazetteer.Proofs.Matching.Thread

/-! What a node makes of a place.

The threads that leave a node depend on the place where it is entered, and on nothing else that
is its own business: neither on the captures made before, nor on the way to the node, nor on
choices made outside it (`Node.ends_alike`). So a node has `outcomes` at a place, and those of
a node with parts are made from those of the parts. -/
namespace Gazetteer.Regex

/-! ### Groups renumbered -/

/-- The node with new indices for its groups. -/
def Node.renumber (f : Nat → Nat) : Node → Node
  | .empty => .empty
  | .set s => .set s
  | .look l => .look l
  | .capture index n => .capture (f index) (n.renumber f)
  | .cat a b => .cat (a.renumber f) (b.renumber f)
  | .alt a b => .alt (a.renumber f) (b.renumber f)
  | .star greedy n => .star greedy (n.renumber f)
  | .plus greedy n => .plus greedy (n.renumber f)

@[simp] theorem Node.renumber_id (n : Node) : n.renumber id = n := by
  induction n <;> simp_all [renumber]

/-- Captures with new indices. -/
def renumbered (f : Nat → Nat) (captured : List (Nat × Extent)) : List (Nat × Extent) :=
  captured.map fun c => (f c.1, c.2)

@[simp] theorem renumbered_id (captured : List (Nat × Extent)) :
    renumbered id captured = captured := by
  simp [renumbered]

/-! ### Threads in two surroundings -/

/-- The thread `u` stands to one surroundings as `t` does to another. The surroundings of a
thread are a way and the captures made before; groups are renumbered by `f`. -/
structure Alike (f : Nat → Nat) (r r' : Way) (base base' : List (Nat × Extent))
    (t u : Thread) : Prop where
  place : u.place = t.place
  captured : ∃ own, t.captured = own ++ base ∧ u.captured = renumbered f own ++ base'
  trail : ∀ x, x ++ r ∈ t.trail ↔ x ++ r' ∈ u.trail

namespace Alike

variable {f : Nat → Nat} {r r' : Way} {base base' : List (Nat × Extent)} {t u : Thread}
  {ts us : List Thread}

theorem take (h : Alike f r r' base base' t u) (s : CharSet) :
    List.Forall₂ (Alike f r r' base base') (t.take s).toList (u.take s).toList := by
  unfold Thread.take
  rw [h.place]
  split
  · exact .nil
  · split
    · exact .cons ⟨rfl, h.captured, by simp⟩ .nil
    · exact .nil

theorem choose (h : Alike f r r' base base' t u) (x : Way) :
    Option.Rel (Alike f r r' base base') (t.choose (x ++ r)) (u.choose (x ++ r')) := by
  have hmem : t.trail.contains (x ++ r) = u.trail.contains (x ++ r') := by
    rw [Bool.eq_iff_iff, List.contains_iff_mem, List.contains_iff_mem]
    exact h.trail x
  unfold Thread.choose
  rw [hmem]
  split
  · exact .none
  · refine .some ⟨h.place, h.captured, fun y => ?_⟩
    simp only [List.mem_cons, List.append_cancel_right_eq, h.trail y]

theorem capture (h : Alike f r r' base base' t u) (index start : Nat) :
    Alike f r r' base base' (t.capture index start) (u.capture (f index) start) := by
  obtain ⟨own, ht, hu⟩ := h.captured
  refine ⟨h.place, ⟨(index, ⟨start, t.place.offset⟩) :: own, ?_, ?_⟩, h.trail⟩
  · rw [Thread.capture, ht, List.cons_append]
  · rw [Thread.capture, hu, h.place]
    rfl

theorem firsts (h : List.Forall₂ (Alike f r r' base base') ts us) (seen : List Nat) :
    List.Forall₂ (Alike f r r' base base') (Thread.firsts seen ts) (Thread.firsts seen us) := by
  induction h generalizing seen with
  | nil => exact .nil
  | @cons t u ts us htu _ ih =>
    rw [Thread.firsts, Thread.firsts, htu.place]
    split
    · exact ih seen
    · exact .cons htu (ih _)

end Alike

namespace Node

section

variable {f : Nat → Nat} {r r' : Way} {base base' : List (Nat × Extent)}

/-- The state of a loop: the threads that left it and the places seen. -/
def LoopAlike (f : Nat → Nat) (r r' : Way) (base base' : List (Nat × Extent))
    (s s' : List Thread × List Nat) : Prop :=
  List.Forall₂ (Alike f r r' base base') s.1 s'.1 ∧ s.2 = s'.2

theorem foldl_alike {step step' : List Thread × List Nat → Thread → List Thread × List Nat}
    (hstep : ∀ s s' t u, LoopAlike f r r' base base' s s' → Alike f r r' base base' t u →
      LoopAlike f r r' base base' (step s t) (step' s' u))
    {ts us : List Thread} (h : List.Forall₂ (Alike f r r' base base') ts us)
    {s s' : List Thread × List Nat} (hs : LoopAlike f r r' base base' s s') :
    LoopAlike f r r' base base' (ts.foldl step s) (us.foldl step' s') := by
  induction h generalizing s s' with
  | nil => exact hs
  | cons htu _ ih => exact ih (hstep _ _ _ _ hs htu)

theorem loop_alike {turn turn' : Thread → List Thread} (x : Way)
    (hturn : ∀ t u, Alike f r r' base base' t u →
      List.Forall₂ (Alike f r r' base base') (turn t) (turn' u))
    (greedy : Bool) (fuel : Nat) {s s' : List Thread × List Nat} {t u : Thread}
    (hs : LoopAlike f r r' base base' s s') (h : Alike f r r' base base' t u) :
    LoopAlike f r r' base base' (loop turn (x ++ r) greedy fuel s t)
      (loop turn' (x ++ r') greedy fuel s' u) := by
  induction fuel generalizing s s' t u with
  | zero => exact hs
  | succ fuel ih =>
    obtain ⟨found, seen⟩ := s
    obtain ⟨found', seen'⟩ := s'
    obtain ⟨hfound, rfl⟩ : List.Forall₂ (Alike f r r' base base') found found' ∧ seen = seen' := hs
    unfold loop
    rw [h.place]
    split
    · exact ⟨hfound, rfl⟩
    · have hchoose := h.choose x
      revert hchoose
      cases t.choose (x ++ r) <;> cases u.choose (x ++ r') <;> intro hchoose
      · exact ⟨hfound, rfl⟩
      · exact nomatch hchoose
      · exact nomatch hchoose
      · rename_i t u
        cases hchoose with
        | some htu =>
          simp only
          rw [htu.place]
          split
          · have hseen : LoopAlike f r r' base base' (found, t.place.offset :: seen)
                (found', t.place.offset :: seen) := ⟨hfound, rfl⟩
            have hlater := foldl_alike (fun _ _ _ _ => ih) (hturn _ _ htu) hseen
            exact ⟨.cons htu hlater.1, hlater.2⟩
          · exact foldl_alike (fun _ _ _ _ => ih) (hturn _ _ htu) ⟨.cons htu hfound, rfl⟩

/-- A node does the same in all surroundings. -/
theorem ends_alike (n : Node) (x : Way) {t u : Thread} (h : Alike f r r' base base' t u) :
    List.Forall₂ (Alike f r r' base base') (n.ends (x ++ r) t)
      ((n.renumber f).ends (x ++ r') u) := by
  induction n generalizing x t u with
  | empty => exact .cons h .nil
  | set s => exact h.take s
  | look l =>
    unfold renumber ends
    rw [h.place]
    split
    · exact .cons h .nil
    · exact .nil
  | capture index n ih =>
    unfold renumber ends
    rw [h.place, List.forall₂_map_left_iff, List.forall₂_map_right_iff]
    exact (ih (false :: x) h).imp fun _ _ htu => htu.capture index _
  | cat a b iha ihb =>
    unfold renumber ends
    exact Alike.firsts (List.rel_flatMap (iha (false :: x) h) fun _ _ htu => ihb (true :: x) htu) []
  | alt a b iha ihb =>
    unfold renumber ends
    have hchoose := h.choose x
    revert hchoose
    cases t.choose (x ++ r) <;> cases u.choose (x ++ r') <;> intro hchoose
    · exact .nil
    · exact nomatch hchoose
    · exact nomatch hchoose
    · cases hchoose with
      | some htu =>
        exact Alike.firsts (List.rel_append (iha (false :: x) htu) (ihb (true :: x) htu)) []
  | star greedy n ih =>
    unfold renumber ends
    rw [h.place]
    refine List.rel_reverse (loop_alike x (fun _ _ htu => ?_) greedy _ ⟨.nil, rfl⟩ h).1
    exact ih (false :: x) htu
  | plus greedy n ih =>
    unfold renumber ends
    rw [h.place]
    refine List.rel_reverse (foldl_alike (fun _ _ _ _ => ?_) (ih (false :: x) h) ⟨.nil, rfl⟩).1
    exact loop_alike x (fun _ _ htu => ih (false :: x) htu) greedy _

end

end Node

/-! ### Where threads lead -/

/-- The thread `u` is reached from `t` by moving on, with choices on ways that end in `w` and
captures of the groups `groups`. -/
structure Leads (groups : List Nat) (w : Way) (t u : Thread) : Prop where
  later : t.place.Later u.place
  trail : ∀ x ∈ u.trail, x ∈ t.trail ∨ w <:+ x
  captured : ∃ own, u.captured = own ++ t.captured ∧ ∀ c ∈ own, c.1 ∈ groups

namespace Leads

variable {groups groups' : List Nat} {w w' : Way} {t u v : Thread}

theorem refl (t : Thread) : Leads groups w t t := ⟨.refl _, fun _ => .inl, [], rfl, by simp⟩

theorem trans (h₁ : Leads groups w t u) (h₂ : Leads groups w u v) : Leads groups w t v := by
  obtain ⟨own₁, hu, hown₁⟩ := h₁.captured
  obtain ⟨own₂, hv, hown₂⟩ := h₂.captured
  refine ⟨h₁.later.trans h₂.later, fun x hx => ?_, own₂ ++ own₁, ?_, fun c hc => ?_⟩
  · rcases h₂.trail x hx with hx | hx
    · exact h₁.trail x hx
    · exact .inr hx
  · rw [hv, hu, List.append_assoc]
  · rcases List.mem_append.mp hc with hc | hc
    · exact hown₂ c hc
    · exact hown₁ c hc

theorem mono (h : Leads groups w t u) (hgroups : ∀ i ∈ groups, i ∈ groups') (hw : w' <:+ w) :
    Leads groups' w' t u := by
  obtain ⟨own, hu, hown⟩ := h.captured
  refine ⟨h.later, fun x hx => ?_, own, hu, fun c hc => hgroups _ (hown c hc)⟩
  exact (h.trail x hx).imp_right hw.trans

theorem choose (h : t.choose w = some u) : Leads groups w t u := by
  unfold Thread.choose at h
  split at h
  · exact absurd h (by simp)
  · obtain rfl := Option.some.inj h
    refine ⟨.refl _, fun x hx => ?_, [], rfl, by simp⟩
    rcases List.mem_cons.mp hx with rfl | hx
    · exact .inr (List.suffix_refl _)
    · exact .inl hx

theorem take {s : CharSet} (h : t.take s = some u) : Leads groups w t u := by
  obtain ⟨c, rest, hrest, -, rfl⟩ := Thread.take_eq_some h
  exact ⟨.step hrest (.refl _), by simp, [], rfl, by simp⟩

theorem capture {index start : Nat} (hindex : index ∈ groups) :
    Leads groups w t (t.capture index start) := by
  refine ⟨.refl _, fun _ => .inl, [(index, ⟨start, t.place.offset⟩)], rfl, fun c hc => ?_⟩
  rw [List.mem_singleton.mp hc]
  exact hindex

end Leads

namespace Node

theorem loop_leads {groups : List Nat} {w : Way} {turn : Thread → List Thread} {origin : Thread}
    (hturn : ∀ t, ∀ u ∈ turn t, Leads groups w t u) (greedy : Bool) (fuel : Nat)
    {s : List Thread × List Nat} {t : Thread} (hs : ∀ u ∈ s.1, Leads groups w origin u)
    (ht : Leads groups w origin t) :
    ∀ u ∈ (loop turn w greedy fuel s t).1, Leads groups w origin u := by
  induction fuel generalizing s t with
  | zero => exact hs
  | succ fuel ih =>
    have hvisit : ∀ {ts : List Thread} {s : List Thread × List Nat},
        (∀ u ∈ s.1, Leads groups w origin u) → (∀ u ∈ ts, Leads groups w origin u) →
        ∀ u ∈ (ts.foldl (loop turn w greedy fuel) s).1, Leads groups w origin u := by
      intro ts
      induction ts with
      | nil => exact fun hs _ => hs
      | cons t ts ihts =>
        intro s hs hts
        refine ihts (ih hs (hts t (List.mem_cons_self ..))) fun u hu => ?_
        exact hts u (List.mem_cons_of_mem t hu)
    obtain ⟨found, seen⟩ := s
    unfold loop
    split
    · exact hs
    · split
      · exact hs
      · rename_i t' hchoose
        have ht' : Leads groups w origin t' := ht.trans (Leads.choose hchoose)
        have hafter : ∀ u ∈ turn t', Leads groups w origin u := fun u hu =>
          ht'.trans (hturn t' u hu)
        simp only
        split
        · intro u hu
          rcases List.mem_cons.mp hu with rfl | hu
          · exact ht'
          · exact hvisit (s := (found, t'.place.offset :: seen)) hs hafter u hu
        · refine hvisit (fun u hu => ?_) hafter
          rcases List.mem_cons.mp hu with rfl | hu
          · exact ht'
          · exact hs u hu

theorem foldl_loop_leads {groups : List Nat} {w : Way} {turn : Thread → List Thread}
    {origin : Thread} (hturn : ∀ t, ∀ u ∈ turn t, Leads groups w t u) (greedy : Bool)
    (fuel : Nat) {ts : List Thread} {s : List Thread × List Nat}
    (hs : ∀ u ∈ s.1, Leads groups w origin u) (hts : ∀ u ∈ ts, Leads groups w origin u) :
    ∀ u ∈ (ts.foldl (loop turn w greedy fuel) s).1, Leads groups w origin u := by
  induction ts generalizing s with
  | nil => exact hs
  | cons t ts ih =>
    refine ih (loop_leads hturn greedy fuel hs (hts t (List.mem_cons_self ..))) fun u hu => ?_
    exact hts u (List.mem_cons_of_mem t hu)

/-- The threads that leave a node have only moved on in the text and made choices and captures
of the node. -/
theorem ends_leads (n : Node) (w : Way) (t : Thread) : ∀ u ∈ n.ends w t, Leads n.captures w t u := by
  induction n generalizing w t with
  | empty =>
    intro u hu
    rw [List.mem_singleton.mp hu]
    exact .refl t
  | set s =>
    intro u hu
    exact .take (Option.mem_toList.mp hu)
  | look l =>
    intro u hu
    unfold ends at hu
    split at hu
    · rw [List.mem_singleton.mp hu]
      exact .refl t
    · exact absurd hu (by simp)
  | capture index n ih =>
    intro u hu
    obtain ⟨v, hv, rfl⟩ := List.mem_map.mp hu
    have hinner := ih (false :: w) t v hv
    have hmore : ∀ i ∈ n.captures, i ∈ (capture index n).captures := fun i hi =>
      List.mem_cons_of_mem index hi
    exact (hinner.mono hmore (List.suffix_cons false w)).trans (.capture (List.mem_cons_self ..))
  | cat a b iha ihb =>
    intro u hu
    obtain ⟨v, hv, hu⟩ := List.mem_flatMap.mp (Thread.mem_of_mem_firsts hu)
    have hfirst := iha (false :: w) t v hv
    have hsecond := ihb (true :: w) v u hu
    exact (hfirst.mono (fun _ => List.mem_append_left _) (List.suffix_cons false w)).trans
      (hsecond.mono (fun _ => List.mem_append_right _) (List.suffix_cons true w))
  | alt a b iha ihb =>
    intro u hu
    unfold ends at hu
    split at hu
    · exact absurd hu (by simp)
    · rename_i v hchoose
      refine (Leads.choose hchoose).trans ?_
      rcases List.mem_append.mp (Thread.mem_of_mem_firsts hu) with hu | hu
      · have hfirst := iha (false :: w) v u hu
        exact hfirst.mono (fun _ => List.mem_append_left _) (List.suffix_cons false w)
      · have hsecond := ihb (true :: w) v u hu
        exact hsecond.mono (fun _ => List.mem_append_right _) (List.suffix_cons true w)
  | star greedy n ih =>
    intro u hu
    have hturn : ∀ t, ∀ u ∈ n.ends (false :: w) t, Leads n.captures w t u := fun t u hu =>
      (ih (false :: w) t u hu).mono (fun _ => id) (List.suffix_cons false w)
    exact loop_leads hturn greedy _ (by simp) (.refl t) u (List.mem_reverse.mp hu)
  | plus greedy n ih =>
    intro u hu
    have hturn : ∀ t, ∀ u ∈ n.ends (false :: w) t, Leads n.captures w t u := fun t u hu =>
      (ih (false :: w) t u hu).mono (fun _ => id) (List.suffix_cons false w)
    exact foldl_loop_leads hturn greedy _ (by simp) (hturn t) u (List.mem_reverse.mp hu)

/-! ### Outcomes -/

end Node

namespace Thread

/-- The thread as the surroundings of a node see it, with the captures made before. -/
def onto (base : List (Nat × Extent)) (t : Thread) : Thread :=
  ⟨t.place, t.captured ++ base, []⟩

theorem onto_onto (base base' : List (Nat × Extent)) (t : Thread) :
    (t.onto base).onto base' = t.onto (base ++ base') := by
  simp [onto]

theorem firsts_onto (base : List (Nat × Extent)) (seen : List Nat) (ts : List Thread) :
    (firsts seen ts).map (onto base) = firsts seen (ts.map (onto base)) :=
  (firsts_map (g := onto base) fun _ => rfl).symm

end Thread

namespace Node

/-- What the node makes of a place: the threads that leave it, but for their trails. -/
def outcomes (n : Node) (p : Cursor) : List Thread :=
  (n.ends [] (Thread.start p)).map (Thread.onto [])

/-- What the node makes of a thread that has made no choice of the node's. -/
def after (n : Node) (t : Thread) : List Thread :=
  (n.outcomes t.place).map (Thread.onto t.captured)

theorem map_eq_of_forall₂ {R : Thread → Thread → Prop} {g h : Thread → Thread}
    {ts us : List Thread} (hts : List.Forall₂ R ts us) (hR : ∀ t u, R t u → g t = h u) :
    ts.map g = us.map h := by
  induction hts with
  | nil => rfl
  | cons htu _ ih => rw [List.map_cons, List.map_cons, hR _ _ htu, ih]

/-- Anywhere in a pattern a node leaves the threads that are its outcomes. -/
theorem ends_eq_after (n : Node) {w : Way} {t : Thread} (hfresh : ∀ x ∈ t.trail, ¬ w <:+ x) :
    (n.ends w t).map (Thread.onto []) = n.after t := by
  have halike : Alike id [] w [] t.captured (Thread.start t.place) t := by
    refine ⟨rfl, ⟨[], rfl, rfl⟩, fun x => ⟨by simp [Thread.start], fun hx => ?_⟩⟩
    exact absurd (List.suffix_append x w) (hfresh _ hx)
  have hends := n.ends_alike [] halike
  rw [renumber_id] at hends
  unfold after outcomes
  rw [List.map_map]
  refine (map_eq_of_forall₂ hends fun u v huv => ?_).symm
  obtain ⟨own, hu, hv⟩ := huv.captured
  simp [Thread.onto, huv.place, hu, hv]

/-- Renumbered groups are captured in the same way. -/
theorem outcomes_renumber (n : Node) (f : Nat → Nat) (p : Cursor) :
    (n.renumber f).outcomes p =
      (n.outcomes p).map fun t => { t with captured := renumbered f t.captured } := by
  have halike : Alike f [] [] [] [] (Thread.start p) (Thread.start p) :=
    ⟨rfl, ⟨[], rfl, rfl⟩, fun _ => Iff.rfl⟩
  unfold outcomes
  rw [List.map_map]
  refine (map_eq_of_forall₂ (n.ends_alike [] halike) fun t u htu => ?_).symm
  obtain ⟨own, ht, hu⟩ := htu.captured
  simp [Thread.onto, htu.place, ht, hu]

variable {a b c n : Node} {p : Cursor} {t : Thread}

theorem after_start (n : Node) (p : Cursor) : n.after (Thread.start p) = n.outcomes p := by
  unfold after outcomes
  rw [List.map_map]
  refine List.map_congr_left fun t _ => ?_
  rw [Function.comp_apply, Thread.onto_onto]
  rfl

theorem after_onto (n : Node) (t : Thread) (base : List (Nat × Extent)) :
    n.after (t.onto base) = (n.after t).map (Thread.onto base) := by
  unfold after
  rw [List.map_map]
  refine List.map_congr_left fun u _ => ?_
  rw [Function.comp_apply, Thread.onto_onto]
  rfl

theorem offsets_after (n : Node) (t : Thread) :
    Thread.offsets (n.after t) = Thread.offsets (n.outcomes t.place) := by
  unfold after Thread.offsets
  rw [List.map_map]
  rfl

/-- Outcomes are later places, and only groups of the node are captured on the way. -/
theorem leads_of_mem_outcomes (h : t ∈ n.outcomes p) :
    p.Later t.place ∧ ∀ c ∈ t.captured, c.1 ∈ n.captures := by
  obtain ⟨u, hu, rfl⟩ := List.mem_map.mp h
  have hleads := n.ends_leads [] (Thread.start p) u hu
  obtain ⟨own, hown, hgroups⟩ := hleads.captured
  refine ⟨hleads.later, fun c hc => hgroups c ?_⟩
  simpa [Thread.onto, hown, Thread.start] using hc

theorem later_of_mem_after {u : Thread} (h : u ∈ n.after t) : t.place.Later u.place := by
  obtain ⟨v, hv, rfl⟩ := List.mem_map.mp h
  exact (leads_of_mem_outcomes hv).1

theorem outcomes_look (l : Look) (p : Cursor) :
    (Node.look l).outcomes p = if l.holds p then [Thread.start p] else [] := by
  unfold outcomes ends
  split <;> rename_i h <;> simp only [Thread.start] at h <;> simp [h, Thread.onto, Thread.start]

theorem outcomes_capture (index : Nat) (n : Node) (p : Cursor) :
    (capture index n).outcomes p = (n.outcomes p).map (·.capture index p.offset) := by
  have hinner := n.ends_eq_after (w := [false]) (t := Thread.start p) (by simp [Thread.start])
  rw [after_start] at hinner
  rw [← hinner, List.map_map]
  show ((n.ends [false] (Thread.start p)).map (·.capture index p.offset)).map (Thread.onto []) = _
  rw [List.map_map]
  rfl

theorem fresh_of_leads {groups : List Nat} {u : Thread} (h : Leads groups [false] t u)
    (ht : ∀ x ∈ t.trail, ¬ [true] <:+ x) : ∀ x ∈ u.trail, ¬ [true] <:+ x := by
  rintro x hx ⟨y, hy⟩
  rcases h.trail x hx with hx | ⟨z, hz⟩
  · exact ht x hx ⟨y, hy⟩
  · have := (List.append_inj' (hy.trans hz.symm) rfl).2
    exact absurd this (by simp)

/-- Each way through the first node is followed through the second. -/
theorem outcomes_cat (a b : Node) (p : Cursor) :
    (cat a b).outcomes p = Thread.firsts [] ((a.outcomes p).flatMap b.after) := by
  have hfirst := a.ends_eq_after (w := [false]) (t := Thread.start p) (by simp [Thread.start])
  rw [after_start] at hfirst
  unfold outcomes
  rw [ends, Thread.firsts_onto, List.map_flatMap]
  rw [show (a.ends [] (Thread.start p)).map (Thread.onto []) = a.outcomes p from rfl, ← hfirst,
    List.flatMap_map]
  refine congrArg (Thread.firsts []) (List.flatMap_congr fun u hu => ?_)
  rw [b.ends_eq_after, after_onto]
  · unfold after
    rw [List.map_map]
    refine List.map_congr_left fun v _ => ?_
    rw [Function.comp_apply, Thread.onto_onto, List.append_nil]
  · exact fresh_of_leads (a.ends_leads _ _ u hu) (by simp [Thread.start])

/-- The outcomes of the first node come before those of the second. -/
theorem outcomes_alt (a b : Node) (p : Cursor) :
    (alt a b).outcomes p = Thread.firsts [] (a.outcomes p ++ b.outcomes p) := by
  have hside : ∀ (n : Node) (x : Bool),
      (n.ends [x] ⟨p, [], [[]]⟩).map (Thread.onto []) = n.outcomes p := by
    intro n x
    rw [n.ends_eq_after (w := [x]) (t := ⟨p, [], [[]]⟩) (by simp)]
    exact n.after_start p
  rw [← hside a false, ← hside b true, ← List.map_append, ← Thread.firsts_onto]
  rfl

theorem after_cat (a b : Node) (t : Thread) :
    (cat a b).after t = Thread.firsts [] ((a.after t).flatMap b.after) := by
  rw [after, outcomes_cat, Thread.firsts_onto, List.map_flatMap]
  unfold after
  rw [List.flatMap_map]
  refine congrArg (Thread.firsts []) (List.flatMap_congr fun u _ => ?_)
  exact (b.after_onto u t.captured).symm

/-! ### Nodes that cannot be told apart -/

/-- The two nodes make the same of every place. -/
def Same (a b : Node) : Prop := ∀ p, a.outcomes p = b.outcomes p

theorem Same.after (h : Same a b) (t : Thread) : a.after t = b.after t := by
  unfold Node.after
  rw [h]

theorem Same.cat {a' b' : Node} (ha : Same a a') (hb : Same b b') :
    Same (.cat a b) (.cat a' b') := by
  intro p
  rw [outcomes_cat, outcomes_cat, ha, funext hb.after]

theorem Same.alt {a' b' : Node} (ha : Same a a') (hb : Same b b') :
    Same (.alt a b) (.alt a' b') := by
  intro p
  rw [outcomes_alt, outcomes_alt, ha, hb]

/-- It does not matter how a sequence is put together. -/
theorem cat_assoc (a b c : Node) : Same (.cat (.cat a b) c) (.cat a (.cat b c)) := by
  intro p
  rw [outcomes_cat, outcomes_cat, outcomes_cat, Thread.firsts_flatMap, funext (after_cat b c),
    Thread.firsts_flatMap_firsts, List.flatMap_assoc]
  intro t ht u hu hoffset
  have hlater : ∀ v ∈ (a.outcomes p).flatMap b.after, p.Later v.place := by
    intro v hv
    obtain ⟨s, hs, hv⟩ := List.mem_flatMap.mp hv
    exact (leads_of_mem_outcomes hs).1.trans (later_of_mem_after hv)
  rw [offsets_after, offsets_after, (hlater t ht).ext (hlater u hu) hoffset]

end Node
end Gazetteer.Regex
