import Gazetteer.Regex.Thread

/-! Places and threads.

A thread only ever moves on in the text, so of the threads that come from one place an offset tells
where each stands (`Cursor.Later.ext`). Keeping the first thread at each place can be done early
or late: the same threads are kept (`Thread.firsts_flatMap_firsts` and `firsts_flatMap`). -/
namespace Gazetteer.Regex

/-! ### Later places -/

namespace Cursor

/-- The place `q` is reached from `p` by taking characters. -/
inductive Later : Cursor → Cursor → Prop
  | refl (p : Cursor) : Later p p
  | step {p q : Cursor} {c : Char} {rest : List Char} (hp : p.rest = c :: rest)
    (h : Later (p.past c rest) q) : Later p q

namespace Later

variable {p q r : Cursor}

theorem trans (h₁ : Later p q) (h₂ : Later q r) : Later p r := by
  induction h₁ with
  | refl => exact h₂
  | step hp _ ih => exact .step hp (ih h₂)

theorem offset_le (h : Later p q) : p.offset ≤ q.offset := by
  induction h with
  | refl => exact Nat.le_refl _
  | step _ _ ih => exact Nat.le_trans (Nat.le_add_right ..) ih

theorem offset_lt {c : Char} {rest : List Char} (h : Later (p.past c rest) q) :
    p.offset < q.offset :=
  Nat.lt_of_lt_of_le (Nat.lt_add_of_pos_right c.utf8Size_pos) h.offset_le

/-- An offset tells where a later place is. -/
theorem ext (h₁ : Later p q) (h₂ : Later p r) (h : q.offset = r.offset) : q = r := by
  induction h₁ with
  | refl p =>
    cases h₂ with
    | refl => rfl
    | step _ hr => exact absurd h (Nat.ne_of_lt hr.offset_lt)
  | step hp hq ih =>
    cases h₂ with
    | refl => exact absurd h (Nat.ne_of_gt hq.offset_lt)
    | step hp' hr =>
      rw [hp] at hp'
      obtain ⟨rfl, rfl⟩ := List.cons.inj hp'
      exact ih hr h

end Later

end Cursor

namespace Thread

/-- A thread goes on only past a character of the set. -/
theorem take_eq_some {s : CharSet} {t u : Thread} (h : t.take s = some u) :
    ∃ c rest, t.place.rest = c :: rest ∧ s c ∧ u = ⟨t.place.past c rest, t.captured, []⟩ := by
  unfold take at h
  split at h
  · exact absurd h (by simp)
  · rename_i c rest hrest
    split at h
    · rename_i hc
      exact ⟨c, rest, hrest, hc, (Option.some.inj h).symm⟩
    · exact absurd h (by simp)

/-! ### The first thread at each place -/

variable {seen seen' : List Nat} {t : Thread} {ts us : List Thread}

/-- The offsets that threads have reached. -/
def offsets (ts : List Thread) : List Nat := ts.map (·.place.offset)

theorem firsts_cons_of_mem (h : t.place.offset ∈ seen) : firsts seen (t :: ts) = firsts seen ts := by
  rw [firsts, if_pos (List.contains_iff_mem.mpr h)]

theorem firsts_cons_of_not_mem (h : t.place.offset ∉ seen) :
    firsts seen (t :: ts) = t :: firsts (t.place.offset :: seen) ts := by
  rw [firsts, if_neg (mt List.contains_iff_mem.mp h)]

theorem firsts_congr (h : ∀ n, n ∈ seen ↔ n ∈ seen') : firsts seen ts = firsts seen' ts := by
  induction ts generalizing seen seen' with
  | nil => rfl
  | cons t ts ih =>
    by_cases ht : t.place.offset ∈ seen
    · rw [firsts_cons_of_mem ht, firsts_cons_of_mem ((h _).mp ht), ih h]
    · rw [firsts_cons_of_not_mem ht, firsts_cons_of_not_mem (mt (h _).mpr ht)]
      have hmore : ∀ n, n ∈ t.place.offset :: seen ↔ n ∈ t.place.offset :: seen' := fun n => by
        simp only [List.mem_cons, h]
      rw [ih hmore]

theorem mem_of_mem_firsts (h : t ∈ firsts seen ts) : t ∈ ts := by
  induction ts generalizing seen with
  | nil => exact h
  | cons u ts ih =>
    by_cases hu : u.place.offset ∈ seen
    · rw [firsts_cons_of_mem hu] at h
      exact List.mem_cons_of_mem u (ih h)
    · rw [firsts_cons_of_not_mem hu] at h
      rcases List.mem_cons.mp h with rfl | h
      · exact List.mem_cons_self ..
      · exact List.mem_cons_of_mem u (ih h)

theorem firsts_eq_nil (h : ∀ n ∈ offsets ts, n ∈ seen) : firsts seen ts = [] := by
  induction ts with
  | nil => rfl
  | cons t ts ih =>
    rw [firsts_cons_of_mem (h _ (List.mem_cons_self ..))]
    exact ih fun n hn => h n (List.mem_cons_of_mem _ hn)

theorem firsts_append :
    firsts seen (ts ++ us) = firsts seen ts ++ firsts (offsets ts ++ seen) us := by
  induction ts generalizing seen with
  | nil => rfl
  | cons t ts ih =>
    by_cases ht : t.place.offset ∈ seen
    · rw [List.cons_append, firsts_cons_of_mem ht, firsts_cons_of_mem ht, ih]
      congr 1
      refine firsts_congr fun n => ?_
      simp only [offsets, List.map_cons, List.cons_append, List.mem_cons, List.mem_append]
      constructor
      · exact Or.inr
      · rintro (rfl | h)
        · exact .inr ht
        · exact h
    · rw [List.cons_append, firsts_cons_of_not_mem ht, firsts_cons_of_not_mem ht, ih,
        List.cons_append]
      congr 2
      refine firsts_congr fun n => ?_
      simp only [offsets, List.map_cons, List.cons_append, List.mem_cons, List.mem_append]
      exact or_left_comm

/-- Every place stays reached. -/
theorem mem_offsets_firsts (seen : List Nat) (ts : List Thread) (n : Nat) :
    n ∈ offsets (firsts seen ts) ∨ n ∈ seen ↔ n ∈ offsets ts ∨ n ∈ seen := by
  induction ts generalizing seen with
  | nil => rfl
  | cons t ts ih =>
    by_cases ht : t.place.offset ∈ seen
    · rw [firsts_cons_of_mem ht, ih]
      simp only [offsets, List.map_cons, List.mem_cons]
      constructor
      · exact fun h => h.imp_left .inr
      · rintro ((rfl | h) | h)
        · exact .inr ht
        · exact .inl h
        · exact .inr h
    · rw [firsts_cons_of_not_mem ht]
      have := ih (t.place.offset :: seen)
      simp only [offsets, List.map_cons, List.mem_cons] at this ⊢
      rw [or_assoc, or_left_comm, this, or_left_comm, or_assoc]

theorem firsts_firsts (h : ∀ n ∈ seen', n ∈ seen) : firsts seen (firsts seen' ts) = firsts seen ts := by
  induction ts generalizing seen seen' with
  | nil => rfl
  | cons t ts ih =>
    by_cases ht' : t.place.offset ∈ seen'
    · rw [firsts_cons_of_mem ht', firsts_cons_of_mem (h _ ht'), ih h]
    · rw [firsts_cons_of_not_mem ht']
      by_cases ht : t.place.offset ∈ seen
      · rw [firsts_cons_of_mem ht, firsts_cons_of_mem ht]
        refine ih fun n hn => ?_
        rcases List.mem_cons.mp hn with rfl | hn
        · exact ht
        · exact h n hn
      · rw [firsts_cons_of_not_mem ht, firsts_cons_of_not_mem ht]
        rw [ih fun n hn => ?_]
        rcases List.mem_cons.mp hn with rfl | hn
        · exact List.mem_cons_self ..
        · exact List.mem_cons_of_mem _ (h n hn)

/-- Threads that go on may be thinned out as soon as they have gone on. -/
theorem firsts_flatMap_firsts (g : Thread → List Thread) :
    firsts seen (ts.flatMap fun t => firsts [] (g t)) = firsts seen (ts.flatMap g) := by
  induction ts generalizing seen with
  | nil => rfl
  | cons t ts ih =>
    have hnil : ∀ n ∈ ([] : List Nat), n ∈ seen := by simp
    rw [List.flatMap_cons, List.flatMap_cons, firsts_append, firsts_append, firsts_firsts hnil, ih]
    congr 1
    refine firsts_congr fun n => ?_
    have := mem_offsets_firsts [] (g t) n
    simp only [List.not_mem_nil, or_false] at this
    rw [List.mem_append, List.mem_append, this]

/-- Threads may be thinned out before they go on, if where they go on to depends only on their
place. -/
theorem firsts_flatMap {g : Thread → List Thread}
    (hg : ∀ t ∈ ts, ∀ u ∈ ts, t.place.offset = u.place.offset → offsets (g t) = offsets (g u)) :
    firsts [] ((firsts [] ts).flatMap g) = firsts [] (ts.flatMap g) := by
  suffices h : ∀ us seen seen', (∀ t ∈ us, t ∈ ts) →
      (∀ t ∈ ts, t.place.offset ∈ seen' → ∀ n ∈ offsets (g t), n ∈ seen) →
      firsts seen ((firsts seen' us).flatMap g) = firsts seen (us.flatMap g) by
    exact h ts [] [] (fun _ ht => ht) (fun _ _ h => absurd h (List.not_mem_nil))
  intro us
  induction us with
  | nil => exact fun _ _ _ _ => rfl
  | cons u us ih =>
    intro seen seen' hsub hseen
    have hu := hsub u (List.mem_cons_self ..)
    have hsub : ∀ t ∈ us, t ∈ ts := fun t ht => hsub t (List.mem_cons_of_mem u ht)
    by_cases hmem : u.place.offset ∈ seen'
    · have hdone := hseen u hu hmem
      rw [firsts_cons_of_mem hmem, List.flatMap_cons, firsts_append, firsts_eq_nil hdone,
        List.nil_append, ih seen seen' hsub hseen]
      refine firsts_congr fun n => ?_
      rw [List.mem_append]
      exact ⟨.inr, fun h => h.elim (hdone n) id⟩
    · rw [firsts_cons_of_not_mem hmem, List.flatMap_cons, List.flatMap_cons, firsts_append,
        firsts_append]
      rw [ih _ _ hsub fun t ht hoffset n hn => ?_]
      rw [List.mem_append]
      rcases List.mem_cons.mp hoffset with heq | hoffset
      · rw [hg t ht u hu heq] at hn
        exact .inl hn
      · exact .inr (hseen t ht hoffset n hn)

/-- What is done to each thread without moving it may be done later. -/
theorem firsts_map {g : Thread → Thread} (hg : ∀ t, (g t).place = t.place) :
    firsts seen (ts.map g) = (firsts seen ts).map g := by
  induction ts generalizing seen with
  | nil => rfl
  | cons t ts ih =>
    have hoffset : (g t).place.offset = t.place.offset := by rw [hg]
    rw [List.map_cons]
    by_cases ht : t.place.offset ∈ seen
    · rw [firsts_cons_of_mem (by rwa [hoffset]), firsts_cons_of_mem ht, ih]
    · rw [firsts_cons_of_not_mem (by rwa [hoffset]), firsts_cons_of_not_mem ht, List.map_cons,
        hoffset, ih]

theorem head?_firsts : (firsts [] ts).head? = ts.head? := by
  cases ts with
  | nil => rfl
  | cons t ts => rfl

end Thread
end Gazetteer.Regex
