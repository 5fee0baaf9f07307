import Gazetteer.Proofs.Group.Extraction
import Gazetteer.Proofs.Recognizer.Groups
import Gazetteer.Proofs.Sorting

/-! The entities of all groups.

What all groups extract together is what each extracts alone, sorted by where it starts
(`Recognizer.mergesStably`). The sort keeps the order of what it need not move: the entities of one
group, which are in order already, and those that start at the same place. -/
namespace Gazetteer

namespace Recognizer

variable {v : Vocabulary} {wordBoundaries : Bool} {r : Recognizer} {text : String}

/-! ### Entities of one group -/

theorem entity_of_mem {c : CompiledGroup} {e : NamedEntity} (he : e ∈ c.extract text) :
    e.entity = c.name := by
  obtain ⟨m, -, hm⟩ := List.mem_filterMap.mp he
  obtain ⟨-, -, -, hentity, -⟩ := CompiledGroup.entityOf?_eq_some_iff.mp hm
  exact hentity

/-- The name of a group picks out what the group extracts. -/
theorem filter_flatMap_extract {groups : List CompiledGroup}
    (hnames : (groups.map CompiledGroup.name).Nodup) {c : CompiledGroup} (hc : c ∈ groups) :
    (groups.flatMap (·.extract text)).filter (·.entity == c.name) = c.extract text := by
  have hall : ∀ d ∈ groups, (d.extract text).filter (·.entity == c.name) =
      if d.name = c.name then d.extract text else [] := by
    intro d _
    split
    · rename_i hname
      refine List.filter_eq_self.mpr fun e he => ?_
      rw [entity_of_mem he, hname]
      exact beq_self_eq_true _
    · rename_i hname
      refine List.filter_eq_nil_iff.mpr fun e he => ?_
      rw [entity_of_mem he]
      simpa using hname
  rw [List.filter_flatMap, List.flatMap_congr hall]
  induction groups with
  | nil => exact absurd hc (List.not_mem_nil)
  | cons d groups ih =>
    obtain ⟨hd, hnames⟩ := List.nodup_cons.mp hnames
    rw [List.flatMap_cons]
    rcases List.mem_cons.mp hc with rfl | hc
    · have hothers : (groups.flatMap fun d => if d.name = c.name then d.extract text else []) = [] := by
        refine List.flatMap_eq_nil_iff.mpr fun e he => if_neg fun hname => hd ?_
        rw [← hname]
        exact List.mem_map_of_mem he
      rw [if_pos rfl, hothers, List.append_nil]
    · have hne : d.name ≠ c.name := fun hname => hd (hname ▸ List.mem_map_of_mem hc)
      rw [if_neg hne, List.nil_append]
      exact ih hnames hc fun d hd => hall d (List.mem_cons_of_mem _ hd)

/-- Names stand in the order of the places at which they are found. -/
theorem pairwise_idxOf {names : List String} (h : names.Nodup) :
    names.Pairwise fun a b => names.idxOf a ≤ names.idxOf b := by
  rw [List.pairwise_iff_getElem]
  intro i j hi hj hij
  rw [h.idxOf_getElem i hi, h.idxOf_getElem j hj]
  exact Nat.le_of_lt hij

/-- Before the sort entities stand in the order of their groups. -/
theorem pairwise_flatMap_extract {groups : List CompiledGroup} {names : List String}
    (h : groups.Pairwise fun c d => names.idxOf c.name ≤ names.idxOf d.name) :
    (groups.flatMap (·.extract text)).Pairwise fun a b =>
      names.idxOf a.entity ≤ names.idxOf b.entity := by
  rw [List.pairwise_flatMap]
  refine ⟨fun c _ => List.pairwise_of_forall_mem_list fun a ha b hb => ?_, h.imp ?_⟩
  · exact Nat.le_of_eq (by rw [entity_of_mem ha, entity_of_mem hb])
  · intro c d hcd a ha b hb
    rw [entity_of_mem ha, entity_of_mem hb]
    exact hcd

/-! ### All entities -/

/-- The order that entities are sorted by. -/
def startsFirst (a b : NamedEntity) : Bool := (compare a.span.start b.span.start).isLE

theorem startsFirst_iff {a b : NamedEntity} : startsFirst a b ↔ a.span.start ≤ b.span.start := by
  unfold startsFirst
  rw [Nat.isLE_compare]

theorem startsFirst_trans (a b c : NamedEntity) (hab : startsFirst a b) (hbc : startsFirst b c) :
    startsFirst a c := by
  rw [startsFirst_iff] at hab hbc ⊢
  exact Nat.le_trans hab hbc

theorem startsFirst_total (a b : NamedEntity) : startsFirst a b || startsFirst b a := by
  rw [Bool.or_eq_true, startsFirst_iff, startsFirst_iff]
  exact Nat.le_total ..

theorem extractAll_eq (r : Recognizer) (text : String) :
    r.extractAll text = (r.groups.flatMap (·.extract text)).mergeSort startsFirst := rfl

/-- The list merges what the groups extract from a text, by where entities start. -/
structure MergesStably (r : Recognizer) (text : String) (all : EntityList) : Prop where
  perm : all.Perm (r.groups.flatMap (·.extract text))
  sorted : all.Pairwise fun a b => a.span.start ≤ b.span.start
  /-- At the same place the group declared first comes first. -/
  ties : all.Pairwise fun a b => a.span.start = b.span.start →
    r.entityNames.idxOf a.entity ≤ r.entityNames.idxOf b.entity
  /-- The entities of a group are those it extracts alone, in the same order. -/
  group : ∀ c ∈ r.groups, r.extract c.name text = .ok (c.extract text) ∧
    all.ofGroup c.name = c.extract text

/-- A stable sort by where entities start keeps the order of those that start at the same place. -/
theorem pairwise_ties {l : EntityList} {R : NamedEntity → NamedEntity → Prop} (h : l.Pairwise R) :
    (l.mergeSort startsFirst).Pairwise fun a b => a.span.start = b.span.start → R a b :=
  (pairwise_ties_mergeSort startsFirst_trans startsFirst_total h).imp fun h hstart =>
    h (startsFirst_iff.mpr (Nat.le_of_eq hstart.symm))

theorem mergesStably (hv : v.IsBuilt) (h : ofVocabulary v wordBoundaries = .ok r) (text : String) :
    r.entityNames = v.groups.map TermGroup.name ∧ MergesStably r text (r.extractAll text) := by
  have hnames := nodup_entityNames hv h
  refine ⟨entityNames_eq h, ?_⟩
  rw [extractAll_eq]
  refine ⟨List.mergeSort_perm _ _, ?_, ?_, fun c hc => ⟨?_, ?_⟩⟩
  · refine (List.pairwise_mergeSort startsFirst_trans startsFirst_total _).imp ?_
    exact fun hab => startsFirst_iff.mp hab
  · have hgroups := pairwise_idxOf hnames
    rw [entityNames, List.pairwise_map] at hgroups
    exact pairwise_ties (pairwise_flatMap_extract hgroups)
  · unfold extract
    rw [group_eq hnames hc]
    rfl
  · unfold EntityList.ofGroup
    rw [filter_mergeSort startsFirst_trans startsFirst_total,
      filter_flatMap_extract hnames hc]
    rw [filter_flatMap_extract hnames hc]
    exact (c.pairwise_extract text).imp fun hab => startsFirst_iff.mpr (Nat.le_of_lt hab.2)

/-- A group that was declared again keeps its place, and so do its entities. -/
theorem mergesStably_of_redeclared :
    let flags : Directive := .bits 0
    let v := ((Vocabulary.empty.insertGroup ⟨"long", [⟨"a", "a"⟩], flags⟩).insertGroup
      ⟨"short", [⟨"b", "b"⟩, ⟨"none", "b??"⟩], flags⟩).insertGroup ⟨"long", [⟨"ab", "ab?|b"⟩], flags⟩
    ∃ r, ofVocabulary v false = .ok r ∧ MergesStably r "abb" (r.extractAll "abb") ∧
      (r.groups.map fun c => (c.name, (c.extract "abb").map (·.span))) =
        [("long", [⟨0, 2⟩, ⟨2, 3⟩]), ("short", [⟨0, 0⟩, ⟨1, 2⟩, ⟨2, 3⟩])] := by
  intro flags v
  have hv : v.IsBuilt := .insert (.insert (.insert .empty _) _) _
  have hspans : (ofVocabulary v false).toOption.map (fun r =>
      r.groups.map fun c => (c.name, (c.extract "abb").map (·.span))) =
        some [("long", [⟨0, 2⟩, ⟨2, 3⟩]), ("short", [⟨0, 0⟩, ⟨1, 2⟩, ⟨2, 3⟩])] := by
    decide +kernel
  cases hr : ofVocabulary v false with
  | error e => rw [hr] at hspans; exact absurd hspans (by simp [Except.toOption])
  | ok r =>
    rw [hr] at hspans
    exact ⟨r, rfl, (mergesStably hv hr "abb").2, Option.some.inj hspans⟩

end Recognizer
end Gazetteer
