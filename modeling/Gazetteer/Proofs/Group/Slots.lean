import Mathlib.Data.List.Nodup
import Mathlib.Data.List.Pairwise
import Gazetteer.CompiledGroup
import Gazetteer.Proofs.Group.Choice
import Gazetteer.Proofs.Symbol.Table

/-! The captures that tell the terms of a group apart.

A term is known by the capture around its body. All captures of the regex are gone through, and the
index of each is written down for the term that it is named for. The name leads to the right one:
names and indices of groups are unique, and a group that takes part keeps both. So what is written
down for a term is the index of the one capture of its name (`CompiledGroup.fillSlots_eq`). -/
namespace Gazetteer

namespace Regex

/-! ### Names and indices -/

theorem numbered_of_read {verbose : Bool} {pattern : String} {a : Ast}
    (h : Ast.read verbose pattern = some a) :
    (a.groups.map Prod.fst).Nodup ∧ (a.groups.filterMap Prod.snd).Nodup := by
  obtain ⟨-, e, o, hlexed, hopened, rfl⟩ := Ast.read_eq_some h
  have hnumbered := hlexed.numbered (Draft.numbered_start verbose)
  have hperm : e.level.content.groups.Perm e.groups := by
    unfold Draft.groups
    rw [hopened, List.flatMap_nil, List.append_nil]
    exact e.level.groups_content
  exact ⟨(hperm.map _).nodup_iff.mpr hnumbered.indices,
    (hperm.filterMap _).nodup_iff.mpr hnumbered.names⟩

theorem eq_of_name {groups : List (Nat × Option String)} (h : (groups.filterMap Prod.snd).Nodup)
    {i j : Nat} {name : String} (hi : (i, some name) ∈ groups) (hj : (j, some name) ∈ groups) :
    i = j := by
  by_contra hne
  have hpairwise := List.pairwise_filterMap.mp h
  have : Std.Symm fun g g' : Nat × Option String =>
      ∀ n, g.2 = some n → ∀ n', g'.2 = some n' → n ≠ n' :=
    ⟨fun _ _ h n hn n' hn' => (h n' hn' n hn).symm⟩
  refine hpairwise.forall hi hj (fun heq => hne (Prod.mk.inj heq).1) name rfl name rfl rfl

theorem mem_groupNames {a : Ast} {i : Nat} {name : String} :
    (i, name) ∈ a.groupNames ↔ (i, some name) ∈ a.groups := by
  rw [Ast.groupNames_eq, List.mem_filterMap]
  constructor
  · rintro ⟨⟨j, x⟩, hgroup, heq⟩
    cases x with
    | none => exact absurd heq (by simp [Ast.named?])
    | some x =>
      obtain ⟨rfl, rfl⟩ := Prod.mk.inj (Option.some.inj heq)
      exact hgroup
  · exact fun hgroup => ⟨_, hgroup, rfl⟩

theorem le_foldl_max {l : List Nat} {i : Nat} (h : i ∈ l) (b : Nat) : i ≤ l.foldl max b := by
  have hstart : ∀ (l : List Nat) (b : Nat), b ≤ l.foldl max b := by
    intro l
    induction l with
    | nil => exact fun b => Nat.le_refl b
    | cons j l ih => exact fun b => Nat.le_trans (Nat.le_max_left b j) (ih (max b j))
  induction l generalizing b with
  | nil => exact absurd h (List.not_mem_nil)
  | cons j l ih =>
    rcases List.mem_cons.mp h with rfl | h
    · exact Nat.le_trans (Nat.le_max_right b i) (hstart l _)
    · exact ih h _

theorem length_groupList {n : Node} {names : List (Nat × String)} {i : Nat}
    (h : i ∈ n.captures) : i < (groupList n names).length := by
  unfold groupList
  rw [List.length_map, List.length_range]
  exact Nat.lt_succ_of_le (le_foldl_max h 0)

/-- The name of a group that takes part leads to its index. -/
theorem findIdx?_groupList {a : Ast} {n : Node} (hindices : (a.groups.map Prod.fst).Nodup)
    (hnames : (a.groups.filterMap Prod.snd).Nodup) {i : Nat} {name : String}
    (hgroup : (i, some name) ∈ a.groups) (hcapture : i ∈ n.captures) :
    (groupList n a.groupNames).findIdx? (· == some name) = some i := by
  have hget : ∀ j (hj : j < (groupList n a.groupNames).length),
      (groupList n a.groupNames)[j] =
        if n.captures.contains j then (a.groupNames.find? (·.1 == j)).map (·.2) else none := by
    intro j hj
    simp [groupList]
  rw [List.findIdx?_eq_some_iff_getElem]
  refine ⟨length_groupList hcapture, ?_, fun j hj => ?_⟩
  · rw [hget, if_pos (by simpa using hcapture)]
    cases hfind : a.groupNames.find? (·.1 == i) with
    | none =>
      have := List.find?_eq_none.mp hfind (i, name) (mem_groupNames.mpr hgroup)
      exact absurd this (by simp)
    | some g =>
      obtain ⟨j, x⟩ := g
      obtain rfl : j = i := by simpa using List.find?_some hfind
      have hg := mem_groupNames.mp (List.mem_of_find?_eq_some hfind)
      have := List.inj_on_of_nodup_map hindices hg hgroup rfl
      obtain rfl : x = name := Option.some.inj (Prod.mk.inj this).2
      simp
  · rw [hget]
    split
    · cases hfind : a.groupNames.find? (·.1 == j) with
      | none => simp
      | some g =>
        obtain ⟨j', x⟩ := g
        obtain rfl : j' = j := by simpa using List.find?_some hfind
        have hg := mem_groupNames.mp (List.mem_of_find?_eq_some hfind)
        simp only [Option.map_some, beq_iff_eq, Option.some.injEq]
        rintro rfl
        exact absurd (eq_of_name hnames hg hgroup) (Nat.ne_of_lt hj)
    · simp

theorem mem_of_getElem?_groupList {n : Node} {names : List (Nat × String)} {name : String} {i : Nat}
    (h : (groupList n names)[i]? = some (some name)) : i ∈ n.captures ∧ (i, name) ∈ names := by
  obtain ⟨hi, h⟩ := List.getElem?_eq_some_iff.mp h
  simp only [groupList, List.getElem_map, List.getElem_range] at h
  split at h
  · rename_i hcapture
    obtain ⟨⟨j, name'⟩, hfind, rfl⟩ := Option.map_eq_some_iff.mp h
    obtain rfl : j = i := by simpa using List.find?_some hfind
    exact ⟨by simpa using hcapture, List.mem_of_find?_eq_some hfind⟩
  · exact absurd h (by simp)

theorem ofPattern?_eq_some {o : Options} {pattern : String} {r : Regex}
    (h : ofPattern? o pattern = some r) :
    ∃ a m', Ast.read o.verbose pattern = some a ∧ Node.ofAst o.mode a = some (r.node, m') ∧
      r.groups = groupList r.node a.groupNames := by
  unfold ofPattern? at h
  obtain ⟨a, ha, h⟩ := Option.bind_eq_some_iff.1 h
  obtain ⟨⟨n, m'⟩, hn, h⟩ := Option.bind_eq_some_iff.1 h
  obtain rfl := Option.some.inj h
  exact ⟨a, m', ha, hn, rfl⟩

/-- No two captures of a regex have the same name. -/
theorem nodup_captureNames {o : Options} {pattern : String} {r : Regex}
    (h : ofPattern? o pattern = some r) : (r.groups.filterMap id).Nodup := by
  obtain ⟨a, m', ha, -, hgroups⟩ := ofPattern?_eq_some h
  refine List.pairwise_filterMap.mpr (List.pairwise_iff_getElem.mpr fun i j hi hj hij => ?_)
  rintro name hname _ hname' rfl
  have hfirst := hgroups ▸ (List.getElem?_eq_getElem hi).trans (congrArg some hname)
  have hsecond := hgroups ▸ (List.getElem?_eq_getElem hj).trans (congrArg some hname')
  have heq := eq_of_name (numbered_of_read ha).2
    (mem_groupNames.mp (mem_of_getElem?_groupList hfirst).2)
    (mem_groupNames.mp (mem_of_getElem?_groupList hsecond).2)
  exact Nat.ne_of_lt hij heq

end Regex

/-! ### Filling in -/

namespace CompiledGroup

variable {symbols : SymbolTable} {symbol : String}

/-- A capture leads to the place of the symbol that it is named by. -/
theorem place?_eq_some_iff (h : symbols.InStep) {i : Nat} :
    place? symbols (some symbol) = some i ↔ symbols.symbols[i]? = some symbol := by
  show (symbols.name? symbol).bind symbols.position? = some i ↔ _
  rw [Option.bind_eq_some_iff, SymbolTable.symbols, List.getElem?_map, Option.map_eq_some_iff]
  constructor
  · rintro ⟨name, hname, hplace⟩
    have hplace := (h.byName name i).mp hplace
    rw [SymbolTable.names, List.getElem?_map, Option.map_eq_some_iff] at hplace
    obtain ⟨entry, hentry, rfl⟩ := hplace
    -- Both entries of the name hold the symbol made from it.
    refine ⟨entry, hentry, ?_⟩
    rw [h.entries entry (List.mem_of_getElem? hentry), ← h.entries _ (h.name?_eq_some_iff.mp hname)]
  · rintro ⟨entry, hentry, rfl⟩
    refine ⟨entry.1, h.name?_eq_some_iff.mpr (List.mem_of_getElem? hentry), ?_⟩
    refine (h.byName entry.1 i).mpr ?_
    rw [SymbolTable.names, List.getElem?_map, hentry, Option.map_some]

@[simp] theorem length_setSlot (slots : List Nat) (capture : Option String × Nat) :
    (setSlot symbols slots capture).length = slots.length := by
  unfold setSlot
  split
  · exact List.length_set
  · rfl

/-- One capture sets the slot of the symbol that it is named by, and no other. -/
theorem getElem?_setSlot (h : symbols.InStep) {slots : List Nat}
    (hlength : slots.length = symbols.entries.length) {i : Nat}
    (hsymbol : symbols.symbols[i]? = some symbol) (capture : Option String) (index : Nat) :
    (setSlot symbols slots (capture, index))[i]? =
      if capture = some symbol then some index else slots[i]? := by
  have hi : i < slots.length := by
    rw [hlength, ← List.length_map (f := Prod.snd)]
    exact (List.getElem?_eq_some_iff.mp hsymbol).1
  unfold setSlot
  cases capture with
  | none => rfl
  | some other =>
    by_cases heq : other = symbol
    · subst heq
      simp only [(place?_eq_some_iff h).mpr hsymbol, List.getElem?_set_self hi, if_true]
    · rw [if_neg (fun hsome => heq (Option.some.inj hsome))]
      cases hplace : place? symbols (some other) with
      | none => rfl
      | some j =>
        refine List.getElem?_set_ne fun hij => heq ?_
        subst hij
        exact Option.some.inj (((place?_eq_some_iff h).mp hplace).symm.trans hsymbol)

/-- All captures from one on set the slot of a symbol to the index of the one that it names. -/
theorem getElem?_foldl_setSlot (h : symbols.InStep) {captures : List (Option String)}
    (hcaptures : (captures.filterMap id).Nodup) {slots : List Nat}
    (hlength : slots.length = symbols.entries.length) {i : Nat}
    (hsymbol : symbols.symbols[i]? = some symbol) (start : Nat) :
    ((captures.zipIdx start).foldl (setSlot symbols) slots)[i]? =
      match captures.findIdx? (· == some symbol) with
      | some index => some (start + index)
      | none => slots[i]? := by
  induction captures generalizing slots start with
  | nil => rfl
  | cons capture captures ih =>
    have hrest : (captures.filterMap id).Nodup :=
      hcaptures.sublist ((List.sublist_cons_self capture captures).filterMap id)
    rw [List.zipIdx_cons, List.foldl_cons, ih hrest ((length_setSlot ..).trans hlength),
      getElem?_setSlot h hlength hsymbol, List.findIdx?_cons]
    by_cases heq : capture = some symbol
    · -- No later capture has the name again.
      subst heq
      have hnot : some symbol ∉ captures := fun hmem =>
        (List.nodup_cons.mp hcaptures).1 (List.mem_filterMap.mpr ⟨_, hmem, rfl⟩)
      have hnone : captures.findIdx? (· == some symbol) = none := by
        rw [List.findIdx?_eq_none_iff]
        exact fun other hother => beq_false_of_ne fun heq => hnot (heq ▸ hother)
      simp [hnone]
    · rw [if_neg heq, beq_false_of_ne heq]
      cases captures.findIdx? (· == some symbol) with
      | none => rfl
      | some index =>
        refine congrArg some ?_
        show start + 1 + index = start + (index + 1)
        omega

theorem length_fillSlots (captures : List (Option String)) :
    (fillSlots symbols captures).length = symbols.entries.length := by
  have hrun : ∀ (captures : List (Option String × Nat)) (slots : List Nat),
      (captures.foldl (setSlot symbols) slots).length = slots.length := by
    intro captures
    induction captures with
    | nil => exact fun _ => rfl
    | cons capture captures ih => exact fun slots => (ih _).trans (length_setSlot slots capture)
  rw [fillSlots, hrun, List.length_replicate]

/-- If all captures have different names, the slots are the indices of the captures that the symbols
name, and 0 where there is none. -/
theorem fillSlots_eq (h : symbols.InStep) {captures : List (Option String)}
    (hcaptures : (captures.filterMap id).Nodup) :
    fillSlots symbols captures =
      symbols.symbols.map fun symbol => (captures.findIdx? (· == some symbol)).getD 0 := by
  have hlength : symbols.symbols.length = symbols.entries.length := List.length_map _
  refine List.ext_getElem? fun i => ?_
  rw [List.getElem?_map]
  cases hsymbol : symbols.symbols[i]? with
  | none =>
    rw [List.getElem?_eq_none_iff, hlength, ← length_fillSlots captures] at hsymbol
    exact List.getElem?_eq_none hsymbol
  | some symbol =>
    have hi : i < symbols.entries.length := hlength ▸ (List.getElem?_eq_some_iff.mp hsymbol).1
    rw [fillSlots, getElem?_foldl_setSlot h hcaptures List.length_replicate hsymbol,
      Option.map_some]
    cases captures.findIdx? (· == some symbol) with
    | none => rw [List.getElem?_replicate, if_pos hi]; rfl
    | some index => exact congrArg some (Nat.zero_add index)

end CompiledGroup
end Gazetteer
