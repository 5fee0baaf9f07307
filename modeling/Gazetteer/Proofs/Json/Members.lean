import Mathlib.Data.List.Induction
import Gazetteer.Json.Sorted
import Gazetteer.Proofs.Result

/-! Members of objects.

The sorted form of an object has the members of the object, each in its sorted form
(`Json.member?_sorted`, `Json.mem_keys_sortedMembers`), and no two of one name
(`Json.nodup_sortedMembers`).

An object is read member by member into a draft. If no two members have the same name, the order in
which they stand does not matter: what the draft holds can be said of the object
(`Json.foldlM_eq_ok_iff`). -/
namespace Gazetteer.Json

variable {members done : List (String × Json)}

/-! ### Looking up -/

theorem member?_cons (name key : String) (v : Json) (members : List (String × Json)) :
    member? name (.object ((key, v) :: members)) =
      (member? name (.object members)).or (if key = name then some v else none) := by
  simp only [member?, List.reverse_cons, List.find?_append, List.find?_singleton, beq_iff_eq]
  cases members.reverse.find? (·.1 == name) with
  | some m => rfl
  | none => by_cases h : key = name <;> simp [h]

theorem member?_concat (name key : String) (v : Json) (members : List (String × Json)) :
    member? name (.object (members ++ [(key, v)])) =
      if key = name then some v else member? name (.object members) := by
  by_cases h : key = name <;> simp [member?, h]

theorem member?_isSome_iff {name : String} :
    (member? name (.object members)).isSome ↔ name ∈ members.map Prod.fst := by
  simp [member?]

theorem member?_eq_none_iff {name : String} :
    member? name (.object members) = none ↔ name ∉ members.map Prod.fst := by
  rw [← member?_isSome_iff, Option.not_isSome_iff_eq_none]

/-! ### Sorted members -/

/-- The members stand in the order of their names, and each name stands once. -/
def IsSorted (members : List (String × Json)) : Prop := members.Pairwise (·.1 < ·.1)

theorem IsSorted.nodup (h : IsSorted members) : (members.map Prod.fst).Nodup := by
  refine List.pairwise_map.mpr (h.imp ?_)
  intro m m' hlt heq
  rw [heq] at hlt
  exact String.lt_irrefl _ hlt

theorem mem_of_mem_insertMember {name : String} {v : Json} {m : String × Json}
    (h : m ∈ insertMember name v members) : m = (name, v) ∨ m ∈ members := by
  induction members with
  | nil => exact .inl (List.mem_singleton.mp h)
  | cons m' members ih =>
    unfold insertMember at h
    grind

theorem IsSorted.insertMember (h : IsSorted members) (name : String) (v : Json) :
    IsSorted (insertMember name v members) := by
  induction members with
  | nil => exact List.pairwise_singleton _ _
  | cons m members ih =>
    obtain ⟨hm, hmembers⟩ := List.pairwise_cons.mp h
    unfold Json.insertMember
    split
    · rename_i hlt
      refine List.pairwise_cons.mpr ⟨?_, h⟩
      exact List.forall_mem_cons.mpr ⟨hlt, fun m' hm' => String.lt_trans hlt (hm m' hm')⟩
    · rename_i hlt
      split
      · rename_i heq
        obtain rfl : name = m.1 := beq_iff_eq.mp heq
        exact List.pairwise_cons.mpr ⟨hm, hmembers⟩
      · rename_i hne
        refine List.pairwise_cons.mpr ⟨fun m' hm' => ?_, ih hmembers⟩
        rcases mem_of_mem_insertMember hm' with rfl | hm'
        · exact Std.lt_of_le_of_ne (String.not_lt.mp hlt) fun heq => hne (beq_iff_eq.mpr heq.symm)
        · exact hm m' hm'

theorem member?_eq_none_of_lt {name : String} (h : ∀ m ∈ members, name < m.1) :
    member? name (.object members) = none := by
  refine member?_eq_none_iff.mpr fun hmem => ?_
  obtain ⟨m, hm, rfl⟩ := List.mem_map.mp hmem
  exact String.lt_irrefl _ (h m hm)

/-- What is put into a list is found there, and all else as before. -/
theorem member?_insertMember (h : IsSorted members) (name key : String) (v : Json) :
    member? name (.object (insertMember key v members)) =
      if key = name then some v else member? name (.object members) := by
  induction members with
  | nil => exact member?_cons name key v []
  | cons m members ih =>
    obtain ⟨first, w⟩ := m
    obtain ⟨hfirst, hmembers⟩ := List.pairwise_cons.mp h
    unfold insertMember
    split
    · rename_i hlt
      rw [member?_cons]
      by_cases heq : key = name
      · subst heq
        have hall := fun m hm => String.lt_trans hlt (hfirst m hm)
        have hnone := member?_eq_none_of_lt (List.forall_mem_cons.mpr ⟨hlt, hall⟩)
        rw [hnone, Option.none_or, if_pos rfl]
      · rw [if_neg heq, if_neg heq, Option.or_none]
    · rename_i hlt
      split
      · rename_i heq
        obtain rfl : key = first := beq_iff_eq.mp heq
        rw [member?_cons, member?_cons]
        by_cases heq : key = name
        · subst heq
          rw [member?_eq_none_of_lt hfirst, Option.none_or, if_pos rfl, if_pos rfl]
        · rw [if_neg heq, if_neg heq, if_neg heq]
      · rw [member?_cons, member?_cons, ih hmembers]
        by_cases heq : key = name
        · rw [if_pos heq, if_pos heq, Option.some_or]
        · rw [if_neg heq, if_neg heq]

theorem IsSorted.sortedMembers (h : IsSorted done) (members : List (String × Json)) :
    IsSorted (sortedMembers done members) := by
  induction members generalizing done with
  | nil => rwa [Json.sortedMembers]
  | cons m members ih =>
    rw [Json.sortedMembers]
    exact ih (h.insertMember _ _)

theorem member?_sortedMembers (h : IsSorted done) (name : String) :
    member? name (.object (sortedMembers done members)) =
      ((member? name (.object members)).map sorted).or (member? name (.object done)) := by
  induction members generalizing done with
  | nil => rfl
  | cons m members ih =>
    obtain ⟨key, v⟩ := m
    rw [sortedMembers, ih (h.insertMember _ _), member?_insertMember h, member?_cons]
    cases member? name (.object members) with
    | some w => rfl
    | none => by_cases heq : key = name <;> simp [heq]

theorem isSorted_nil : IsSorted [] := .nil

theorem nodup_sortedMembers (members : List (String × Json)) :
    ((sortedMembers [] members).map Prod.fst).Nodup := (isSorted_nil.sortedMembers members).nodup

/-- A member of a sorted object is that of the object, sorted. -/
theorem member?_sorted (name : String) (members : List (String × Json)) :
    member? name (.object (sortedMembers [] members)) =
      (member? name (.object members)).map sorted := by
  rw [member?_sortedMembers isSorted_nil]
  exact Option.or_none

theorem mem_keys_sortedMembers {name : String} :
    name ∈ (sortedMembers [] members).map Prod.fst ↔ name ∈ members.map Prod.fst := by
  rw [← member?_isSome_iff, member?_sorted, Option.isSome_map, member?_isSome_iff]

/-! ### Reading into a draft -/

section Draft
variable {α β : Type} {read : Json → Except String α} {v? : Option Json} {a? : Option α}

/-- What has been read of a member, if it is there. -/
def Reads (read : Json → Except String α) (v? : Option Json) (a? : Option α) : Prop :=
  Option.Rel (fun v a => read v = .ok a) v? a?

theorem reads_none_left : Reads read none a? ↔ a? = none := by
  cases a? <;> simp [Reads]

theorem reads_some_left {v : Json} :
    Reads read (some v) a? ↔ ∃ a, read v = .ok a ∧ some a = a? := by
  cases a? <;> simp [Reads]

theorem reads_some_right {a : α} :
    Reads read v? (some a) ↔ ∃ v, v? = some v ∧ read v = .ok a := by
  cases v? <;> simp [Reads]

/-- A part of a draft is filled if nothing is there yet. -/
theorem fill_eq_ok_iff {error : String} {x : Except String α} {f : α → β} {b : β} :
    (if a?.isSome then .error error else do return f (← x)) = .ok b ↔
      a? = none ∧ ∃ a, x = .ok a ∧ f a = b := by
  cases a? <;> cases x <;> simp [bind, Except.bind, pure, Except.pure]

/-- If a draft holds nothing at first, and then what it held and one more member, it holds all of
them in the end. -/
theorem foldlM_eq_ok_iff {add : β → String → Json → Except String β} {empty : β}
    {Holds : List (String × Json) → β → Prop} (hempty : ∀ d, Holds [] d ↔ empty = d)
    (hadd : ∀ {members key}, key ∉ members.map Prod.fst → ∀ v d,
      Holds (members ++ [(key, v)]) d ↔ ∃ d', Holds members d' ∧ add d' key v = .ok d)
    (hnodup : (members.map Prod.fst).Nodup) (d : β) :
    members.foldlM (fun d (key, v) => add d key v) empty = .ok d ↔ Holds members d := by
  induction members using List.reverseRecOn generalizing d with
  | nil =>
    show Except.ok empty = .ok d ↔ _
    rw [hempty, Except.ok.injEq]
  | append_singleton members m ih =>
    obtain ⟨key, v⟩ := m
    rw [List.map_append, List.nodup_append] at hnodup
    obtain ⟨hmembers, -, hkey⟩ := hnodup
    have hnew : key ∉ members.map Prod.fst := fun hmem => hkey key hmem key (by simp) rfl
    rw [hadd hnew, List.foldlM_append, bind_eq_ok_iff]
    refine exists_congr fun d' => and_congr (ih hmembers d') ?_
    show (add d' key v >>= pure) = .ok d ↔ _
    rw [bind_pure]

end Draft
end Gazetteer.Json
