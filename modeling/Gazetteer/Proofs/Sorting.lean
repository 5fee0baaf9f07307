import Mathlib.Data.List.Basic

/-! Stable sorting.

A stable sort moves only what it has to. Things that are tied, so that either may stand before the
other, come out in the order in which they went in (`filter_tied_mergeSort`,
`pairwise_ties_mergeSort`), and a sorted list is known from the order of what is tied
(`eq_of_filter_tied`). -/
namespace Gazetteer

section Stable
variable {α : Type} {le : α → α → Bool} {l l' : List α}

/-- What is in order already is not moved by a stable sort. -/
theorem filter_mergeSort (trans : ∀ a b c, le a b → le b c → le a c)
    (total : ∀ a b, le a b || le b a) {test : α → Bool}
    (h : (l.filter test).Pairwise fun a b => le a b) :
    (l.mergeSort le).filter test = l.filter test := by
  have hsorted : (l.filter test).Sublist (l.mergeSort le) :=
    List.sublist_mergeSort trans total h List.filter_sublist
  have hkept : (l.filter test).Sublist ((l.mergeSort le).filter test) := by
    have hfilter := hsorted.filter test
    rwa [List.filter_eq_self.mpr fun a ha => (List.mem_filter.mp ha).2] at hfilter
  have hlength : ((l.mergeSort le).filter test).length = (l.filter test).length :=
    ((List.mergeSort_perm l le).filter test).length_eq
  exact (hkept.eq_of_length hlength.symm).symm

/-- Whether neither of two things has to stand before the other. -/
def tied (le : α → α → Bool) (a b : α) : Bool := le a b && le b a

/-- What is tied with one thing is tied with one another. -/
theorem pairwise_filter_tied (trans : ∀ a b c, le a b → le b c → le a c) (a : α) (l : List α) :
    (l.filter (tied le a)).Pairwise fun b c => le b c := by
  refine List.pairwise_of_forall_mem_list fun b hb c hc => ?_
  have hb := (Bool.and_eq_true_iff.mp (List.mem_filter.mp hb).2).2
  have hc := (Bool.and_eq_true_iff.mp (List.mem_filter.mp hc).2).1
  exact trans b a c hb hc

theorem filter_tied_mergeSort (trans : ∀ a b c, le a b → le b c → le a c)
    (total : ∀ a b, le a b || le b a) (a : α) (l : List α) :
    (l.mergeSort le).filter (tied le a) = l.filter (tied le a) :=
  filter_mergeSort trans total (pairwise_filter_tied trans a l)

/-- Things that are tied stand in the order in which they stood before the sort. -/
theorem pairwise_ties_mergeSort (trans : ∀ a b c, le a b → le b c → le a c)
    (total : ∀ a b, le a b || le b a) {R : α → α → Prop} (h : l.Pairwise R) :
    (l.mergeSort le).Pairwise fun a b => le b a → R a b := by
  rw [List.pairwise_iff_forall_sublist]
  intro a b hab hba
  have hle : le a b :=
    List.pairwise_iff_forall_sublist.mp (List.pairwise_mergeSort trans total l) hab
  have hrefl : le a a := by simpa using total a a
  have hpair : [a, b].filter (tied le a) = [a, b] := by simp [tied, hle, hba, hrefl]
  have hsub : [a, b].Sublist (l.filter (tied le a)) := by
    rw [← filter_tied_mergeSort trans total a l, ← hpair]
    exact hab.filter _
  exact List.pairwise_iff_forall_sublist.mp (h.sublist List.filter_sublist) hsub

theorem mem_of_filter_tied (total : ∀ a b, le a b || le b a)
    (heq : ∀ a, l.filter (tied le a) = l'.filter (tied le a)) {a : α} (ha : a ∈ l) : a ∈ l' := by
  have hrefl : tied le a a := by simpa [tied] using total a a
  have hfilter : a ∈ l.filter (tied le a) := List.mem_filter.mpr ⟨ha, hrefl⟩
  rw [heq a] at hfilter
  exact (List.mem_filter.mp hfilter).1

/-- A sorted list is known from what is tied with each thing. -/
theorem eq_of_filter_tied (total : ∀ a b, le a b || le b a) (h : l.Pairwise fun a b => le a b)
    (h' : l'.Pairwise fun a b => le a b)
    (heq : ∀ a, l.filter (tied le a) = l'.filter (tied le a)) : l = l' := by
  have hrefl (a : α) : le a a := by simpa using total a a
  induction l generalizing l' with
  | nil =>
    have hnone (a : α) (ha : a ∈ l') : a ∈ [] :=
      mem_of_filter_tied total (fun b => (heq b).symm) ha
    exact (List.eq_nil_iff_forall_not_mem.mpr fun a ha => absurd (hnone a ha) (by simp)).symm
  | cons a l ih =>
    cases l' with
    | nil =>
      have hnone : a ∈ [] := mem_of_filter_tied total heq List.mem_cons_self
      exact absurd hnone (by simp)
    | cons b l' =>
      obtain ⟨hfirst, hl⟩ := List.pairwise_cons.mp h
      obtain ⟨hfirst', hl'⟩ := List.pairwise_cons.mp h'
      -- Each of the two first things stands in the other list, so they are tied.
      have hab : le a b := by
        rcases List.mem_cons.mp (mem_of_filter_tied total (fun c => (heq c).symm)
          (List.mem_cons_self : b ∈ b :: l')) with rfl | hb
        · exact hrefl b
        · exact hfirst b hb
      have hba : le b a := by
        rcases List.mem_cons.mp (mem_of_filter_tied total heq
          (List.mem_cons_self : a ∈ a :: l)) with rfl | ha
        · exact hrefl a
        · exact hfirst' a ha
      have hhead := heq a
      rw [List.filter_cons_of_pos (by simp [tied, hrefl]),
        List.filter_cons_of_pos (by simp [tied, hab, hba])] at hhead
      obtain ⟨rfl, -⟩ := List.cons.inj hhead
      refine congrArg (a :: ·) (ih hl hl' fun c => ?_)
      by_cases hc : tied le c a
      · simpa [List.filter_cons, hc] using heq c
      · simpa [List.filter_cons, hc] using heq c

end Stable

end Gazetteer
