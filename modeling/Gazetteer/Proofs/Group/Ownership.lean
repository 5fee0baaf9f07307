import Gazetteer.Proofs.Group.Rows
import Gazetteer.Proofs.Reading.Living

/-! The captures that terms own.

The slot of a term is the index of the group around its body, or 0, which is the whole match, if the
pattern has no such group. Term by term it depends on the pattern as it is read whether there is
one (`CompiledGroup.keepsGroup`), and if so, no other term has the same slot
(`CompiledGroup.ownsSlots_iff_keepsGroup`). Bodies that are enclosed by the groups around them lose
no group. -/
namespace Gazetteer

open Regex (Ast Node Part)

namespace Regex

variable {verbose : Bool} {pattern name : String} {a : Ast} {m m' : Mode} {n : Node}

/-! ### Looking up a name -/

theorem pos_of_read (h : Ast.read verbose pattern = some a) : ∀ g ∈ a.groups, 0 < g.1 := by
  obtain ⟨-, e, o, hlexed, -, rfl⟩ := Ast.read_eq_some h
  intro g hg
  refine ((hlexed.numbered (Draft.numbered_start verbose)).bound g ?_).1
  exact List.mem_append_left _ (e.level.groups_content.mem_iff.mp hg)

/-- A name leads to a living group if the pattern has one, and then not to the whole match. -/
theorem findIdx?_groupList_of_mem (ha : Ast.read verbose pattern = some a)
    (hn : Node.ofAst m a = some (n, m')) (h : some name ∈ a.living.map Prod.snd) :
    ∃ i, 0 < i ∧ (groupList n a.groupNames).findIdx? (· == some name) = some i := by
  obtain ⟨⟨i, _⟩, hliving, rfl⟩ := List.mem_map.mp h
  have hgroup := (Ast.living_sublist a).subset hliving
  have hcapture := (Ast.keeps_of_read ha m n m' hn i).mpr (List.mem_map.mpr ⟨_, hliving, rfl⟩)
  obtain ⟨hindices, hnames⟩ := numbered_of_read ha
  exact ⟨i, pos_of_read ha _ hgroup, findIdx?_groupList hindices hnames hgroup hcapture⟩

theorem mem_living_of_getElem? (ha : Ast.read verbose pattern = some a)
    (hn : Node.ofAst m a = some (n, m')) {i : Nat}
    (h : (groupList n a.groupNames)[i]? = some (some name)) :
    some name ∈ a.living.map Prod.snd := by
  obtain ⟨hcapture, hname⟩ := mem_of_getElem?_groupList h
  obtain ⟨⟨i', name'⟩, hliving, hindex⟩ :=
    List.mem_map.mp ((Ast.keeps_of_read ha m n m' hn i).mp hcapture)
  obtain rfl : i' = i := hindex
  -- Two groups of one index are the same group, so the living one has the name.
  have hsame := List.inj_on_of_nodup_map (numbered_of_read ha).1
    ((Ast.living_sublist a).subset hliving) (mem_groupNames.mp hname) rfl
  exact List.mem_map.mpr ⟨_, hliving, (Prod.mk.inj hsame).2⟩

/-- The group around each part is living. -/
theorem Part.mem_living {parts : List (Part verbose)} (k : Nat)
    (h : name ∈ parts.map Part.symbol) :
    some name ∈ ((branches k parts).flatMap Ast.living).map Prod.snd := by
  induction parts generalizing k with
  | nil => exact absurd h List.not_mem_nil
  | cons p parts ih =>
    rw [branches, List.flatMap_cons, List.map_append, List.mem_append]
    rcases List.mem_cons.mp h with rfl | h
    · exact .inl List.mem_cons_self
    · exact .inr (ih _ h)

end Regex

namespace CompiledGroup

variable {g : TermGroup} {wordBoundaries : Bool} {c : CompiledGroup} {i : Nat} {term : Term}
  {symbol : String}

/-! ### The slot of a term -/

/-- Whether the pattern of the group, as it is read, has a group of the name that is not repeated no
times. -/
def keepsGroup (c : CompiledGroup) (symbol : String) : Bool :=
  (Ast.read c.flags.options.verbose c.source).any fun a =>
    (a.living.map Prod.snd).contains (some symbol)

theorem exists_pattern (hc : ofGroup g wordBoundaries = .ok c) :
    ∃ a m', Ast.read c.flags.options.verbose c.source = some a ∧
      Node.ofAst c.flags.options.mode a = some (c.regex.node, m') ∧
      c.regex.groups = Regex.groupList c.regex.node a.groupNames := by
  obtain ⟨-, -, -, -, hregex⟩ := ofGroup_eq_ok hc
  rw [← source_eq hc] at hregex
  exact Regex.ofPattern?_eq_some hregex

/-- The index of the group of the name, or 0 if no group that takes part has it. -/
def slotOf (c : CompiledGroup) (symbol : String) : Nat :=
  (c.regex.groups.findIdx? (· == some symbol)).getD 0

theorem slots_eq (hc : ofGroup g wordBoundaries = .ok c) :
    c.slots = g.terms.map fun term => c.slotOf (Symbol.ofName term.name) := by
  rw [slots_eq_map_symbols hc, symbols_eq hc, List.map_map]
  rfl

theorem getElem?_slotOf (h : c.slotOf symbol ≠ 0) :
    c.regex.groups[c.slotOf symbol]? = some (some symbol) := by
  unfold slotOf at h ⊢
  cases hfound : c.regex.groups.findIdx? (· == some symbol) with
  | none =>
    rw [hfound] at h
    exact absurd rfl h
  | some s =>
    obtain ⟨hlt, heq, -⟩ := List.findIdx?_eq_some_iff_getElem.mp hfound
    rw [Option.getD_some, List.getElem?_eq_getElem hlt, eq_of_beq heq]

/-- A term has a slot of its own just if its group is kept. -/
theorem keepsGroup_iff (hc : ofGroup g wordBoundaries = .ok c) (symbol : String) :
    c.keepsGroup symbol ↔ c.slotOf symbol ≠ 0 := by
  obtain ⟨a, m', ha, hn, hgroups⟩ := exists_pattern hc
  rw [keepsGroup, ha, Option.any_some, List.contains_iff_mem]
  constructor
  · intro h
    obtain ⟨s, hpos, hs⟩ := Regex.findIdx?_groupList_of_mem ha hn h
    rw [slotOf, hgroups, hs, Option.getD_some]
    exact Nat.ne_of_gt hpos
  · intro h
    have hgroup := getElem?_slotOf h
    rw [hgroups] at hgroup
    exact Regex.mem_living_of_getElem? ha hn hgroup

/-! ### All slots -/

/-- Every term has a capture of its own, which is named for it. -/
structure OwnsSlots (g : TermGroup) (c : CompiledGroup) : Prop where
  length : c.slots.length = g.terms.length
  nodup : c.slots.Nodup
  /-- No slot is the whole match. -/
  ne_zero : 0 ∉ c.slots
  named : ∀ (i s : Nat) (term : Term), c.slots[i]? = some s → g.terms[i]? = some term →
    c.regex.groups[s]? = some (some (Symbol.ofName term.name))

theorem ownsSlots_iff_keepsGroup (hc : ofGroup g wordBoundaries = .ok c) :
    OwnsSlots g c ↔ ∀ term ∈ g.terms, c.keepsGroup (Symbol.ofName term.name) := by
  simp only [keepsGroup_iff hc]
  constructor
  · intro h term hterm hzero
    refine h.ne_zero ?_
    rw [slots_eq hc, ← hzero]
    exact List.mem_map_of_mem hterm
  · intro h
    refine ⟨length_slots hc, ?_, fun hzero => ?_, fun i s term hs hterm => ?_⟩
    · -- A group has one name, and no two terms share a symbol.
      rw [slots_eq_map_symbols hc]
      refine (pairs hc).inStep.bySymbol.nodup.map_on fun symbol hsymbol symbol' hsymbol' heq => ?_
      have heq : c.slotOf symbol = c.slotOf symbol' := heq
      rw [symbols_eq hc] at hsymbol hsymbol'
      obtain ⟨term, hterm, rfl⟩ := List.mem_map.mp hsymbol
      obtain ⟨term', hterm', rfl⟩ := List.mem_map.mp hsymbol'
      have hgroup := getElem?_slotOf (h term hterm)
      have hgroup' := getElem?_slotOf (h term' hterm')
      exact Option.some.inj (Option.some.inj (hgroup.symm.trans (heq ▸ hgroup')))
    · rw [slots_eq hc] at hzero
      obtain ⟨term, hterm, hslot⟩ := List.mem_map.mp hzero
      exact h term hterm hslot
    · rw [slots_eq hc, List.getElem?_map, hterm] at hs
      obtain rfl := Option.some.inj hs
      exact getElem?_slotOf (h term (List.mem_of_getElem? hterm))

/-! ### Enclosed bodies -/

/-- If every body is enclosed by the group around it, no term loses its group. -/
theorem keepsGroup_of_allEnclosed (hc : ofGroup g wordBoundaries = .ok c)
    (h : allEnclosed c.flags wordBoundaries g.terms) :
    ∀ term ∈ g.terms, c.keepsGroup (Symbol.ofName term.name) := by
  obtain ⟨parts, htexts, hsymbols, -⟩ := exists_parts_of_allEnclosed h
  obtain ⟨a, m', ha, hn, -⟩ := exists_pattern hc
  have hne : parts ≠ [] := by
    rintro rfl
    exact (ofGroup_eq_ok hc).2.1 (List.map_eq_nil_iff.mp hsymbols.symm)
  have hread := ha
  rw [source_eq hc, sourceOf, symbols_eq hc, ← htexts] at hread
  intro term hterm
  have hsymbol : Symbol.ofName term.name ∈ parts.map Part.symbol := by
    rw [hsymbols]
    exact List.mem_map_of_mem hterm
  rw [keepsGroup, ha, Option.any_some, List.contains_iff_mem,
    (Part.ofAst_of_texts (m := c.flags.options.mode) hne hread).1, Ast.living_ofBranches]
  exact Part.mem_living 0 hsymbol

/-- The slot of a term is the group around its body, which is named for it, and 0 just if the
pattern has lost that group. So the terms have slots of their own just if no group is lost, and none
is if every body is enclosed. -/
theorem termsOwnSlots (hc : ofGroup g wordBoundaries = .ok c) :
    (∀ (i : Nat) (term : Term), g.terms[i]? = some term → ∃ s, c.slots[i]? = some s ∧
      (c.keepsGroup (Symbol.ofName term.name) ↔ s ≠ 0) ∧
      (s ≠ 0 → c.regex.groups[s]? = some (some (Symbol.ofName term.name)))) ∧
    (OwnsSlots g c ↔ ∀ term ∈ g.terms, c.keepsGroup (Symbol.ofName term.name)) ∧
    (allEnclosed c.flags wordBoundaries g.terms → OwnsSlots g c) := by
  refine ⟨fun i term hterm => ⟨c.slotOf (Symbol.ofName term.name), ?_, keepsGroup_iff hc _,
    getElem?_slotOf⟩, ownsSlots_iff_keepsGroup hc, fun h => ?_⟩
  · rw [slots_eq hc, List.getElem?_map, hterm]
    rfl
  · exact (ownsSlots_iff_keepsGroup hc).mpr (keepsGroup_of_allEnclosed hc h)

/-- Groups within the patterns move the slots of later terms, and no more. -/
theorem termsOwnSlots_of_inner_groups :
    let g : TermGroup := ⟨"g", [⟨"full name", "(A)(?P<rest>b|(?:c))"⟩, ⟨"3rd", "(d)+"⟩, ⟨"x", "e"⟩],
      some (.bits 64)⟩
    ∃ c, ofGroup g true = .ok c ∧ allEnclosed c.flags true g.terms ∧ OwnsSlots g c ∧
      c.slots = [1, 4, 6] := by
  intro g
  have hslots : (ofGroup g true).toOption.map (fun c =>
      (allEnclosed c.flags true g.terms, c.slots)) = some (true, [1, 4, 6]) := by
    decide +kernel
  cases hc : ofGroup g true with
  | error e => rw [hc] at hslots; exact absurd hslots (by simp [Except.toOption])
  | ok c =>
    rw [hc] at hslots
    obtain ⟨henclosed, hslots⟩ := Prod.mk.inj (Option.some.inj hslots)
    exact ⟨c, rfl, henclosed, (termsOwnSlots hc).2.2 henclosed, hslots⟩

/-- A comment that swallows the group of the next term leaves that term the whole match for a
slot. -/
theorem slot_lost_in_comment :
    ¬ ∀ (g : TermGroup) (wordBoundaries : Bool) (c : CompiledGroup),
      ofGroup g wordBoundaries = .ok c → OwnsSlots g c := by
  intro h
  let g : TermGroup := ⟨"g", [⟨"a", "(?x)a#c"⟩, ⟨"b", "b\n"⟩], some (.bits 0)⟩
  have hslots : (ofGroup g false).toOption.map slots = some [1, 0] := by decide +kernel
  cases hc : ofGroup g false with
  | error e => rw [hc] at hslots; exact absurd hslots (by simp [Except.toOption])
  | ok c =>
    rw [hc] at hslots
    have hslots : c.slots = [1, 0] := Option.some.inj hslots
    refine (h g false c hc).ne_zero ?_
    rw [hslots]
    decide

/-- A group may also be kept in the text and lost as a capture, in a repetition that allows no
turn. -/
example : (ofGroup ⟨"g", [⟨"a", "(x"⟩, ⟨"b", "y){0}"⟩], none⟩ false).toOption.map slots =
    some [1, 0] := by
  decide +kernel

end CompiledGroup
end Gazetteer
