import Gazetteer.Entity.List
import Gazetteer.Proofs.Sorting

/-! The order of a list of entities.

A list is sorted by a key in either direction, and entities with the same key keep their order in
both (`EntityList.sortsStably`). The list that comes out is the only one that is in order and keeps
the order of such entities (`EntityList.eq_sortBy`), and so it does not matter how it is reached: by
another sort the other way round, by sorting again, or key by key. -/
namespace Gazetteer.EntityList

variable {κ κ' : Type} [Ord κ] [Ord κ'] {key : NamedEntity → κ} {key' : NamedEntity → κ'}
  {descending : Bool} {l : EntityList}

/-- Whether an entity may stand before another. -/
def precedes (key : NamedEntity → κ) (descending : Bool) (a b : NamedEntity) : Bool :=
  if descending then (compare (key b) (key a)).isLE else (compare (key a) (key b)).isLE

theorem precedes_not (a b : NamedEntity) :
    precedes key (!descending) a b = precedes key descending b a := by
  cases descending <;> rfl

theorem perm_sortBy (key : NamedEntity → κ) (descending : Bool) (l : EntityList) :
    (l.sortBy key descending).Perm l :=
  List.mergeSort_perm l _

variable [Std.TransOrd κ]

theorem precedes_trans (a b c : NamedEntity) (hab : precedes key descending a b)
    (hbc : precedes key descending b c) : precedes key descending a c := by
  cases descending with
  | false => exact Std.TransOrd.isLE_trans hab hbc
  | true => exact Std.TransOrd.isLE_trans hbc hab

theorem precedes_total (a b : NamedEntity) :
    precedes key descending a b || precedes key descending b a := by
  unfold precedes
  rw [Std.OrientedOrd.eq_swap (a := key b)]
  cases descending <;> cases compare (key a) (key b) <;> rfl

theorem tied_precedes (a b : NamedEntity) :
    tied (precedes key descending) a b = (compare (key b) (key a) == .eq) := by
  unfold tied precedes
  rw [Std.OrientedOrd.eq_swap (a := key a)]
  cases descending <;> cases compare (key b) (key a) <;> rfl

theorem pairwise_sortBy (key : NamedEntity → κ) (descending : Bool) (l : EntityList) :
    (l.sortBy key descending).Pairwise fun a b => precedes key descending a b :=
  List.pairwise_mergeSort precedes_trans precedes_total l

/-- Entities with the same key stand as they stood before the sort. -/
theorem filter_sortBy (key : NamedEntity → κ) (descending : Bool) (l : EntityList) (k : κ) :
    (l.sortBy key descending).filter (fun e => compare (key e) k == .eq) =
      l.filter fun e => compare (key e) k == .eq := by
  refine filter_mergeSort precedes_trans precedes_total ?_
  refine List.pairwise_of_forall_mem_list fun a ha b hb => ?_
  have ha : compare (key a) k = .eq := by simpa using (List.mem_filter.mp ha).2
  have hb : compare (key b) k = .eq := by simpa using (List.mem_filter.mp hb).2
  have htied : tied (precedes key descending) b a := by
    rw [tied_precedes]
    exact beq_iff_eq.mpr (Std.TransCmp.eq_trans ha (Std.OrientedCmp.eq_symm hb))
  exact (Bool.and_eq_true_iff.mp htied).2

/-- What is in order, and has entities with the same key in the order in which `l` has them, is `l`
sorted. -/
theorem eq_sortBy {l' : EntityList} (h : l'.Pairwise fun a b => precedes key descending a b)
    (hties : ∀ k, l'.filter (fun e => compare (key e) k == .eq) =
      l.filter fun e => compare (key e) k == .eq) : l' = l.sortBy key descending := by
  refine eq_of_filter_tied precedes_total h (pairwise_sortBy key descending l) fun a => ?_
  have htied : tied (precedes key descending) a = fun e => compare (key e) (key a) == .eq :=
    funext fun e => tied_precedes a e
  rw [htied, filter_sortBy, hties]

theorem sortBy_not (key : NamedEntity → κ) (descending : Bool) (l : EntityList) :
    l.sortBy key (!descending) = (EntityList.sortBy key descending l.reverse).reverse := by
  refine (eq_sortBy ?_ fun k => ?_).symm
  · rw [List.pairwise_reverse]
    simpa only [precedes_not] using pairwise_sortBy key descending l.reverse
  · rw [List.filter_reverse, filter_sortBy, List.filter_reverse, List.reverse_reverse]

theorem sortBy_sortBy_self (key : NamedEntity → κ) (descending : Bool) (l : EntityList) :
    (l.sortBy key descending).sortBy key descending = l.sortBy key descending :=
  List.mergeSort_of_pairwise (pairwise_sortBy key descending l)

/-- Of two keys the second counts where the first does not tell entities apart. -/
theorem precedes_pair (a b : NamedEntity) :
    @precedes (κ × κ') lexOrd (fun e => (key e, key' e)) descending a b ↔
      precedes key descending a b ∧
        (precedes key descending b a → precedes key' descending a b) := by
  have hlex (x y : κ) (x' y' : κ') :
      lexOrd.compare (x, x') (y, y') = (compare x y).then (compare x' y') := rfl
  unfold precedes
  rw [hlex, hlex, Std.OrientedOrd.eq_swap (a := key a)]
  generalize compare (key b) (key a) = o, compare (key' a) (key' b) = o₁,
    compare (key' b) (key' a) = o₂
  cases descending <;> cases o <;> simp

variable [Std.TransOrd κ']

theorem sortBy_sortBy (key : NamedEntity → κ) (key' : NamedEntity → κ') (descending : Bool)
    (l : EntityList) :
    (l.sortBy key' descending).sortBy key descending =
      @sortBy (κ × κ') lexOrd (fun e => (key e, key' e)) descending l := by
  refine @eq_sortBy (κ × κ') lexOrd (fun e => (key e, key' e)) descending l _ _ ?_ fun k => ?_
  · refine ((pairwise_sortBy key descending _).and (pairwise_ties_mergeSort precedes_trans
      precedes_total (pairwise_sortBy key' descending l))).imp fun h => ?_
    exact (precedes_pair _ _).mpr h
  · have hpair : (fun e => lexOrd.compare (key e, key' e) k == .eq) =
        fun e => (compare (key e) k.1 == .eq) && (compare (key' e) k.2 == .eq) := by
      funext e
      show ((compare (key e) k.1).then (compare (key' e) k.2) == .eq) = _
      cases compare (key e) k.1 <;> simp
    rw [hpair, ← List.filter_filter, ← List.filter_filter, List.filter_comm, filter_sortBy,
      List.filter_comm, filter_sortBy]

/-- How a list is sorted by a key: things with the same key keep their order in either direction. -/
structure SortsStably (key : NamedEntity → κ) (descending : Bool) (l : EntityList) : Prop where
  perm : (l.sortBy key descending).Perm l
  ordered : (l.sortBy key descending).Pairwise fun a b =>
    if descending then (compare (key a) (key b)).isGE else (compare (key a) (key b)).isLE
  ties : ∀ k, (l.sortBy key descending).filter (fun e => compare (key e) k == .eq) =
    l.filter fun e => compare (key e) k == .eq
  reversed : l.sortBy key (!descending) = (sortBy key descending l.reverse).reverse
  again : (l.sortBy key descending).sortBy key descending = l.sortBy key descending
  /-- What has been sorted by another key is sorted by both then. -/
  refined : ∀ {κ' : Type} [Ord κ'] [Std.TransOrd κ'] (key' : NamedEntity → κ'),
    (l.sortBy key' descending).sortBy key descending =
      @sortBy (κ × κ') lexOrd (fun e => (key e, key' e)) descending l

theorem sortsStably (key : NamedEntity → κ) (descending : Bool) (l : EntityList) :
    SortsStably key descending l where
  perm := perm_sortBy key descending l
  ordered := (pairwise_sortBy key descending l).imp fun h => by
    cases descending with
    | false => exact h
    | true => exact Std.OrientedCmp.isGE_of_isLE h
  ties := filter_sortBy key descending l
  reversed := sortBy_not key descending l
  again := sortBy_sortBy_self key descending l
  refined key' := sortBy_sortBy key key' descending l

/-- Two genres of the same length stay as they were behind the longer name. -/
theorem sortsStably_by_length :
    let jazz : NamedEntity := ⟨"jazz", "GENRE", "jazz", ⟨27, 31⟩⟩
    let rock : NamedEntity := ⟨"rock", "GENRE", "rock", ⟨20, 24⟩⟩
    let coheed : NamedEntity := ⟨"Coheed", "ARTIST", "Coheed", ⟨90, 96⟩⟩
    Std.TransOrd Nat ∧ SortsStably (·.span.length) true [jazz, rock, coheed] ∧
      sortBy (·.span.length) true [jazz, rock, coheed] = [coheed, jazz, rock] := by
  refine ⟨inferInstance, sortsStably _ _ _, ?_⟩
  simp [sortBy, List.mergeSort, List.MergeSort.Internal.splitInTwo, Span.length,
    Nat.isLE_compare]

end Gazetteer.EntityList
