import Mathlib.Data.List.Chain
import Gazetteer.Unicode.CaseFold
import Gazetteer.Unicode.CharClass

/-! Orbits of the case folding.

The runs of the table stand in ascending order, so the bisection finds the run that holds a
character (`CaseFold.next_of_mem`). No character leads to one below `A` but that character itself
(`CaseFold.next_eq_or_le`), so digits and blanks have no variants. -/
namespace Gazetteer.Unicode

/-- What holds of the codes of ASCII holds of its characters. -/
theorem forall_ascii {p : Char → Bool} (h : (List.range 128).all fun n => p (Char.ofNat n))
    {c : Char} (hc : isAscii c) : p c := by
  have := List.all_eq_true.mp h c.toNat (List.mem_range.mpr (of_decide_eq_true hc))
  rwa [Char.ofNat_toNat] at this

theorem isAscii_of_isAlphanum {c : Char} (h : c.isAlphanum) : isAscii c := by
  have hle : ∀ last : Char, last.toNat < 128 → c.val ≤ last.val → isAscii c :=
    fun last hlast hc => decide_eq_true (Nat.lt_of_le_of_lt (UInt32.le_iff_toNat_le.mp hc) hlast)
  rcases Bool.or_eq_true_iff.mp h with hletter | hdigit
  · rcases Bool.or_eq_true_iff.mp hletter with hupper | hlower
    · exact hle 'Z' (by decide) (of_decide_eq_true hupper).2
    · exact hle 'z' (by decide) (of_decide_eq_true (Bool.and_eq_true_iff.mp hlower).2)
  · exact hle '9' (by decide) (of_decide_eq_true (Bool.and_eq_true_iff.mp hdigit).2)

theorem toNat_lt_of_isAsciiSpace {c : Char} (h : isAsciiSpace c) : c.toNat < 65 := by
  simp only [isAsciiSpace, Bool.or_eq_true, beq_iff_eq, Bool.and_eq_true, decide_eq_true_eq] at h
  rcases h with rfl | h
  · decide
  · omega

namespace FoldRun

/-- Whether the characters of the run lead to characters from `A` upwards. -/
def climbs (r : FoldRun) : Bool :=
  let isUpwards (first last : Nat) : Bool :=
    65 ≤ first && (last < 0xD800 || 0xE000 ≤ first && last < 0x110000)
  match r.step with
  | .up d => isUpwards (r.first + d) (r.last + d)
  | .down d => d ≤ r.first && isUpwards (r.first - d) (r.last - d)
  | .swap => isUpwards r.first (r.last + 1)

theorem le_successor {r : FoldRun} {n : Nat} (h : r.climbs) (hfirst : r.first ≤ n)
    (hlast : n ≤ r.last) : 65 ≤ r.successor n ∧ (r.successor n).isValidChar := by
  obtain ⟨first, last, step⟩ := r
  unfold climbs at h
  unfold successor Nat.isValidChar
  cases step with
  | up d =>
    simp only [Bool.and_eq_true, Bool.or_eq_true, decide_eq_true_eq] at h hfirst hlast ⊢
    omega
  | down d =>
    simp only [Bool.and_eq_true, Bool.or_eq_true, decide_eq_true_eq] at h hfirst hlast ⊢
    omega
  | swap =>
    simp only [Bool.and_eq_true, Bool.or_eq_true, decide_eq_true_eq, beq_iff_eq] at h hfirst hlast ⊢
    split <;> omega

/-- The run stands before the other one. -/
def Precedes (r s : FoldRun) : Prop := r.first < s.first ∧ r.last < s.first

instance : DecidableRel Precedes := fun _ _ => inferInstanceAs (Decidable (_ ∧ _))

instance : IsTrans FoldRun Precedes where
  trans _ _ _ hrs hst := ⟨Nat.lt_trans hrs.1 hst.1, Nat.lt_trans hrs.2 hst.1⟩

end FoldRun

namespace CaseFold

variable {n : Nat}

theorem climbs_of_mem {r : FoldRun} (h : r ∈ runs.toList) : r.climbs := by
  have hall : runs.toList.all FoldRun.climbs := by
    unfold runs
    rw [List.toList_toArray]
    simp only [List.flatMap_cons, List.flatMap_nil]
    -- The characters of each line stand there now, so that they need not be decoded.
    repeat rw [String.toList_ofList]
    decide +kernel
  exact List.all_eq_true.mp hall r h

theorem pairwise_runs : runs.toList.Pairwise FoldRun.Precedes := by
  rw [← List.isChain_iff_pairwise]
  unfold runs
  rw [List.toList_toArray]
  simp only [List.flatMap_cons, List.flatMap_nil]
  repeat rw [String.toList_ofList]
  decide +kernel

theorem precedes_of_lt {i j : Nat} (hi : i < runs.size) (hj : j < runs.size) (h : i < j) :
    runs[i].Precedes runs[j] :=
  List.pairwise_iff_getElem.mp pairwise_runs i j hi hj h

/-! ### The bisection -/

/-- Just the first `k` runs start at or before `n`, and `found` is the last of them. -/
structure Located (n k : Nat) (found : Option FoldRun) : Prop where
  le : k ≤ runs.size
  first_le_iff : ∀ i, (h : i < runs.size) → (runs[i].first ≤ n ↔ i < k)
  found : found = if k = 0 then none else runs[k - 1]?

theorem located_locate {lo hi : Nat} {found : Option FoldRun} {bound : hi ≤ runs.size}
    (hle : lo ≤ hi) (hlo : ∀ i, (h : i < runs.size) → i < lo → runs[i].first ≤ n)
    (hhi : ∀ i, (h : i < runs.size) → hi ≤ i → n < runs[i].first)
    (hfound : found = if lo = 0 then none else runs[lo - 1]?) :
    ∃ k, Located n k (locate n lo hi found bound) := by
  induction hsize : hi - lo using Nat.strongRecOn generalizing lo hi found with
  | ind size ih =>
    rw [locate]
    split
    · rename_i hlt
      have hmiddle : lo + (hi - lo) / 2 < hi := by omega
      have hbelow : ∀ i, (h : i < runs.size) → i < lo + (hi - lo) / 2 →
          runs[i].first < runs[lo + (hi - lo) / 2].first :=
        fun i h hi => (precedes_of_lt h _ hi).1
      dsimp only
      split
      · rename_i hfirst
        refine ih _ (by omega) (by omega) (fun i h hi => ?_) hhi ?_ rfl
        · rcases Nat.lt_or_eq_of_le (Nat.le_of_lt_succ hi) with hi | rfl
          · exact Nat.le_trans (Nat.le_of_lt (hbelow i h hi)) hfirst
          · exact hfirst
        · rw [if_neg (by omega), Nat.add_sub_cancel, Array.getElem?_eq_getElem]
      · rename_i hfirst
        refine ih _ (by omega) (by omega) hlo (fun i h hi => ?_) hfound rfl
        rcases Nat.lt_or_eq_of_le hi with hi | rfl
        · exact Nat.lt_trans (Nat.not_le.mp hfirst) (precedes_of_lt _ h hi).1
        · exact Nat.not_le.mp hfirst
    · rename_i hlt
      obtain rfl : lo = hi := by omega
      refine ⟨lo, bound, fun i h => ⟨fun hfirst => ?_, hlo i h⟩, hfound⟩
      exact Nat.lt_of_not_le fun hi => absurd (hhi i h hi) (Nat.not_lt.mpr hfirst)

theorem exists_located (n : Nat) :
    ∃ k, Located n k (locate n 0 runs.size none (Nat.le_refl _)) :=
  located_locate (Nat.zero_le _) (fun _ _ h => absurd h (Nat.not_lt_zero _))
    (fun _ h hi => absurd h (Nat.not_lt.mpr hi)) rfl

/-- What the bisection finds is a run of the table that starts at or before `n`. -/
theorem mem_of_locate {r : FoldRun} (h : locate n 0 runs.size none (Nat.le_refl _) = some r) :
    r ∈ runs.toList ∧ r.first ≤ n := by
  obtain ⟨k, hk⟩ := exists_located n
  have hfound := hk.found
  rw [h] at hfound
  split at hfound
  · exact absurd hfound (by simp)
  · obtain ⟨hlt, rfl⟩ := Array.getElem?_eq_some_iff.mp hfound.symm
    exact ⟨Array.getElem_mem_toList hlt, (hk.first_le_iff _ hlt).mpr (by omega)⟩

/-- The bisection finds the run that holds `n`. -/
theorem locate_of_mem {r : FoldRun} (h : r ∈ runs.toList) (hfirst : r.first ≤ n)
    (hlast : n ≤ r.last) : locate n 0 runs.size none (Nat.le_refl _) = some r := by
  obtain ⟨k, hk⟩ := exists_located n
  obtain ⟨i, hi, rfl⟩ := Array.getElem_of_mem (Array.mem_toList_iff.mp h)
  have hik : i < k := (hk.first_le_iff i hi).mp hfirst
  have hlt : k - 1 < runs.size := Nat.sub_one_lt_of_le (Nat.zero_lt_of_lt hik) hk.le
  rw [hk.found, if_neg (by omega), Array.getElem?_eq_getElem hlt]
  rcases Nat.lt_or_eq_of_le (Nat.le_sub_one_of_lt hik) with hbefore | rfl
  · -- A later run would start behind the end of this one.
    have hstart := (hk.first_le_iff _ hlt).mpr (by omega)
    exact absurd (precedes_of_lt hi hlt hbefore).2 (by omega)
  · rfl

/-! ### Variants -/

/-- The same without a match, which the kernel would decide by running the bisection. -/
theorem next_eq : next = fun c =>
    (locate c.toNat 0 runs.size none (Nat.le_refl _)).elim c fun r =>
      if c.toNat ≤ r.last then Char.ofNat (r.successor c.toNat) else c := by
  delta next
  funext c
  generalize locate c.toNat 0 runs.size none _ = found
  cases found <;> rfl

theorem next_of_mem {r : FoldRun} {c : Char} (h : r ∈ runs.toList) (hfirst : r.first ≤ c.toNat)
    (hlast : c.toNat ≤ r.last) : next c = Char.ofNat (r.successor c.toNat) := by
  rw [next_eq]
  dsimp only
  rw [locate_of_mem h hfirst hlast]
  exact if_pos hlast

theorem next_eq_or_le (c : Char) : next c = c ∨ 65 ≤ (next c).toNat := by
  rw [next_eq]
  dsimp only
  cases hfound : locate c.toNat 0 runs.size none (Nat.le_refl _) with
  | none => exact .inl rfl
  | some r =>
    obtain ⟨hmem, hfirst⟩ := mem_of_locate hfound
    rw [Option.elim_some]
    by_cases hlast : c.toNat ≤ r.last
    · obtain ⟨hle, hvalid⟩ := FoldRun.le_successor (climbs_of_mem hmem) hfirst hlast
      rw [if_pos hlast, Char.ofNat, dif_pos hvalid]
      exact .inr hle
    · exact .inl (if_neg hlast)

/-- What holds of characters below `A` only holds of a character if it holds of a variant. -/
theorem any_orbit {s : Char → Bool} (hs : ∀ c, s c → c.toNat < 65) (c : Char) :
    (orbit c).any s = s c := by
  have hnext : ∀ d, s (next d) → next d = d := by
    intro d hd
    have := hs _ hd
    exact (next_eq_or_le d).resolve_right (by omega)
  rw [orbit, List.any_cons, Bool.or_eq_left_iff_imp, List.any_eq_true]
  rintro ⟨d, hd, hsd⟩
  exfalso
  have hfirst : ¬s (next c) := by
    intro hsc
    rw [List.takeWhile_cons_of_neg (by simp [hnext c hsc])] at hd
    exact absurd hd List.not_mem_nil
  -- A variant with the property is the one before it too, back to the first.
  have hsecond : ¬s (next (next c)) := fun hsc => hfirst (hnext _ hsc ▸ hsc)
  have hthird : ¬s (next (next (next c))) := fun hsc => hsecond (hnext _ hsc ▸ hsc)
  have hmem := (List.takeWhile_sublist _).mem hd
  simp only [List.mem_cons, List.not_mem_nil, or_false] at hmem
  rcases hmem with rfl | rfl | rfl
  · exact hfirst hsd
  · exact hsecond hsd
  · exact hthird hsd

/-- ASCII letters lead to letters, and nothing else leads anywhere. -/
theorem mem_asciiOrbit {c d : Char} (h : d ∈ asciiOrbit c) :
    d = c ∨ c.isAlphanum ∧ d.isAlphanum ∧ 65 ≤ d.toNat := by
  by_cases hc : isAscii c
  · have hall := forall_ascii (p := fun c => (asciiOrbit c).all fun d => d == c ||
      (c.isAlphanum && d.isAlphanum && decide (65 ≤ d.toNat))) (by decide +kernel) hc
    simpa [and_assoc] using List.all_eq_true.mp hall d h
  · have halpha : c.isAlpha = false := by
      refine Bool.eq_false_iff.mpr fun h => hc (isAscii_of_isAlphanum ?_)
      exact Bool.or_eq_true_iff.mpr (.inl h)
    obtain ⟨hupper, hlower⟩ := Bool.or_eq_false_iff.mp halpha
    rw [asciiOrbit, hlower, hupper] at h
    exact .inl (List.mem_singleton.mp h)

theorem any_asciiOrbit {s : Char → Bool} {c : Char}
    (hs : ∀ d ∈ asciiOrbit c, s d → s c) : (asciiOrbit c).any s = s c := by
  have hmem : c ∈ asciiOrbit c := by
    unfold asciiOrbit
    split
    · exact List.mem_cons_self ..
    · split <;> exact List.mem_cons_self ..
  rw [Bool.eq_iff_iff, List.any_eq_true]
  exact ⟨fun ⟨d, hd, hsd⟩ => hs d hd hsd, fun hsc => ⟨c, hmem, hsc⟩⟩

end CaseFold
end Gazetteer.Unicode
