import Mathlib.Data.List.Nodup
import Gazetteer.Vocabulary

/-! Adding by name.

Groups are added to a vocabulary as terms are added to a group: an item takes the place of the one
of its name, or stands at the end (`place`). Names keep their places, and no two items come to have
the same name. -/
namespace Gazetteer

/-- Replaces the item of the same name in place, or adds the item at the end. -/
def place {α : Type} (name : α → String) (a : α) : List α → List α
  | [] => [a]
  | b :: l => if name b == name a then a :: l else b :: place name a l

theorem TermGroup.insertInto_eq_place (t : Term) (terms : List Term) :
    insertInto t terms = place Term.name t terms := by
  induction terms with
  | nil => rfl
  | cons u terms ih => rw [insertInto, place, ih]

theorem Vocabulary.insertInto_eq_place (g : TermGroup) (groups : List TermGroup) :
    insertInto g groups = place TermGroup.name g groups := by
  induction groups with
  | nil => rfl
  | cons h groups ih => rw [insertInto, place, ih]

section Place
variable {α : Type} {name : α → String} {a b : α} {l : List α}

/-- A new name comes behind the others. -/
theorem map_place :
    (place name a l).map name =
      if name a ∈ l.map name then l.map name else l.map name ++ [name a] := by
  induction l with
  | nil => rfl
  | cons b l ih =>
    rw [place]
    by_cases hname : name b = name a
    · simp [hname]
    · rw [if_neg (by simpa using hname), List.map_cons, ih, List.map_cons]
      have hmem : name a ∈ name b :: l.map name ↔ name a ∈ l.map name := by
        rw [List.mem_cons, or_iff_right (Ne.symm hname)]
      by_cases hold : name a ∈ l.map name
      · rw [if_pos hold, if_pos (hmem.mpr hold)]
      · rw [if_neg hold, if_neg (mt hmem.mp hold), List.cons_append]

/-- No name leaves its place. -/
theorem map_prefix_map_place : l.map name <+: (place name a l).map name := by
  rw [map_place]
  split
  · exact List.prefix_refl _
  · exact List.prefix_append _ _

theorem nodup_map_place (h : (l.map name).Nodup) : ((place name a l).map name).Nodup := by
  rw [map_place]
  split
  · exact h
  · rename_i hnew
    exact h.append (List.nodup_singleton _) (by simpa using hnew)

theorem find?_place (n : String) :
    (place name a l).find? (name · == n) =
      if name a = n then some a else l.find? (name · == n) := by
  by_cases ha : name a = n
  · rw [if_pos ha]
    induction l with
    | nil => exact List.find?_cons_of_pos (beq_iff_eq.mpr ha)
    | cons b l ih =>
      rw [place]
      split
      · exact List.find?_cons_of_pos (beq_iff_eq.mpr ha)
      · rename_i hb
        rwa [List.find?_cons_of_neg (by rwa [← ha])]
  · rw [if_neg ha]
    induction l with
    | nil => exact List.find?_cons_of_neg (by simpa using ha)
    | cons b l ih =>
      rw [place]
      split
      · rename_i hb
        have hbn : (name b == n) = false := by rwa [beq_iff_eq.mp hb, beq_eq_false_iff_ne]
        rw [List.find?_cons_of_neg (by simpa using ha), List.find?_cons, hbn]
      · rw [List.find?_cons, List.find?_cons, ih]

/-- Items of other names stay where they are. -/
theorem getElem?_place {i : Nat} (h : l[i]? = some b) (hb : name b ≠ name a) :
    (place name a l)[i]? = some b := by
  induction l generalizing i with
  | nil => exact absurd h (by simp)
  | cons c l ih =>
    rw [place]
    by_cases hc : name c = name a
    · rw [if_pos (by simpa using hc)]
      cases i with
      | zero =>
        obtain rfl := Option.some.inj h
        exact absurd hc hb
      | succ i => exact h
    · rw [if_neg (by simpa using hc)]
      cases i with
      | zero => exact h
      | succ i => exact ih h

/-- What is placed is found at the place of its name. -/
theorem getElem?_place_self {i : Nat} (hnames : (l.map name).Nodup) (h : l[i]? = some b)
    (hb : name b = name a) : (place name a l)[i]? = some a := by
  induction l generalizing i with
  | nil => exact absurd h (by simp)
  | cons c l ih =>
    obtain ⟨hc, hnames⟩ := List.nodup_cons.mp hnames
    rw [place]
    cases i with
    | zero =>
      obtain rfl := Option.some.inj h
      rw [if_pos (by simpa using hb)]
      rfl
    | succ i =>
      have hne : name c ≠ name a := fun heq =>
        hc (heq.trans hb.symm ▸ List.mem_map_of_mem (List.mem_of_getElem? h))
      rw [if_neg (by simpa using hne)]
      exact ih hnames h

theorem eq_or_mem_of_mem_place (hnames : (l.map name).Nodup) (hb : b ∈ place name a l) :
    b = a ∨ b ∈ l ∧ name b ≠ name a := by
  induction l with
  | nil => exact .inl (List.mem_singleton.mp hb)
  | cons c l ih =>
    obtain ⟨hc, hnames⟩ := List.nodup_cons.mp hnames
    rw [place] at hb
    by_cases hname : name c = name a
    · rw [if_pos (by simpa using hname)] at hb
      rcases List.mem_cons.mp hb with rfl | hb
      · exact .inl rfl
      · refine .inr ⟨List.mem_cons_of_mem _ hb, fun heq => hc ?_⟩
        rw [hname, ← heq]
        exact List.mem_map_of_mem hb
    · rw [if_neg (by simpa using hname)] at hb
      rcases List.mem_cons.mp hb with rfl | hb
      · exact .inr ⟨List.mem_cons_self, hname⟩
      · exact (ih hnames hb).imp_right fun h => ⟨List.mem_cons_of_mem _ h.1, h.2⟩

end Place

/-! ### First and last -/

/-- One more item is a first occurrence, or changes nothing. -/
theorem eraseDups_concat (names : List String) (name : String) :
    (names ++ [name]).eraseDups =
      if name ∈ names then names.eraseDups else names.eraseDups ++ [name] := by
  rw [List.eraseDups_append]
  by_cases h : name ∈ names <;> simp [List.removeAll, List.eraseDups_cons, h]

theorem find?_reverse_concat {α : Type} (test : α → Bool) (l : List α) (a : α) :
    (l ++ [a]).reverse.find? test = if test a then some a else l.reverse.find? test := by
  rw [List.reverse_concat, List.find?_cons]
  cases test a <;> rfl

end Gazetteer
