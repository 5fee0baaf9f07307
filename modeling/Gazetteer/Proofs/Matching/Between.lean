import Gazetteer.Proofs.Matching.Outcome

/-! A node between two conditions.

The same condition on both sides of a node holds where its matches start and where they end
(`Node.holds_of_mem_between`). It can be asked for around a choice as a whole, or around each of
the alternatives (`Node.between_alt`). -/
namespace Gazetteer.Regex

namespace Thread

/-- Two lists of threads may be thinned out before they are put together. -/
theorem firsts_append_firsts (ts us : List Thread) :
    firsts [] (firsts [] ts ++ firsts [] us) = firsts [] (ts ++ us) := by
  rw [firsts_append, firsts_append, firsts_firsts (by simp), firsts_firsts (by simp)]
  congr 1
  refine firsts_congr fun n => ?_
  have := mem_offsets_firsts [] ts n
  rw [List.append_nil, List.append_nil]
  simpa using this

end Thread

namespace Node

variable {a b c f g n : Node} {l : Look} {p : Cursor} {t : Thread}

theorem Same.trans (h₁ : Same a b) (h₂ : Same b c) : Same a c := fun p => (h₁ p).trans (h₂ p)

theorem Same.symm (h : Same a b) : Same b a := fun p => (h p).symm

theorem Same.refl (a : Node) : Same a a := fun _ => rfl

/-! ### Choice in a sequence -/

/-- What comes behind a choice comes behind each of its alternatives. -/
theorem alt_cat (a b c : Node) : Same (.cat (.alt a b) c) (.alt (.cat a c) (.cat b c)) := by
  intro p
  rw [outcomes_cat, outcomes_alt, outcomes_alt, outcomes_cat, outcomes_cat,
    Thread.firsts_append_firsts, Thread.firsts_flatMap, List.flatMap_append]
  intro t ht u hu hoffset
  have hlater : ∀ v ∈ a.outcomes p ++ b.outcomes p, p.Later v.place := by
    intro v hv
    rcases List.mem_append.mp hv with hv | hv <;> exact (leads_of_mem_outcomes hv).1
  rw [offsets_after, offsets_after, (hlater t ht).ext (hlater u hu) hoffset]

theorem outcomes_look_cat (l : Look) (n : Node) (p : Cursor) :
    (cat (look l) n).outcomes p = if l.holds p then Thread.firsts [] (n.outcomes p) else [] := by
  rw [outcomes_cat, outcomes_look]
  split
  · rw [List.flatMap_cons, List.flatMap_nil, List.append_nil, after_start]
  · rfl

/-- A condition before a choice is a condition before each of its alternatives. -/
theorem look_cat_alt (l : Look) (a b : Node) :
    Same (.cat (.look l) (.alt a b)) (.alt (.cat (.look l) a) (.cat (.look l) b)) := by
  intro p
  rw [outcomes_alt, outcomes_look_cat, outcomes_look_cat, outcomes_look_cat, outcomes_alt]
  split
  · rw [Thread.firsts_append_firsts, Thread.firsts_firsts (by simp)]
  · rfl

/-! ### Conditions on both sides -/

/-- A node between two conditions. -/
def between (l : Look) (n : Node) : Node := .cat (.cat (.look l) n) (.look l)

theorem between_alt (l : Look) (a b : Node) :
    Same (between l (.alt a b)) (.alt (between l a) (between l b)) :=
  ((look_cat_alt l a b).cat (.refl (.look l))).trans (alt_cat _ _ _)

/-- The condition holds where a match starts and where it ends. -/
theorem holds_of_mem_between (h : t ∈ (between l n).outcomes p) :
    l.holds p ∧ l.holds t.place := by
  unfold between at h
  rw [outcomes_cat] at h
  obtain ⟨u, hu, ht⟩ := List.mem_flatMap.mp (Thread.mem_of_mem_firsts h)
  rw [outcomes_look_cat] at hu
  unfold after at ht
  rw [outcomes_look] at ht
  split at hu
  · rename_i hp
    split at ht
    · rename_i hu
      obtain rfl := List.mem_singleton.mp ht
      exact ⟨hp, hu⟩
    · exact absurd ht (List.not_mem_nil)
  · exact absurd hu (List.not_mem_nil)

/-! ### A node before a sequence -/

/-- The node `n` is `f` and then `g`. -/
structure Splits (n f g : Node) : Prop where
  same : Same n (.cat f g)
  captures : n.captures = f.captures ++ g.captures

theorem Splits.cat (h : Splits n f g) (a : Node) : Splits (.cat n a) f (.cat g a) := by
  refine ⟨(h.same.cat (.refl a)).trans (cat_assoc f g a), ?_⟩
  show n.captures ++ a.captures = f.captures ++ (g.captures ++ a.captures)
  rw [h.captures, List.append_assoc]

/-- What stands before the first item of a sequence stands before the sequence. -/
theorem Splits.ofItemsAfter {m m' : Mode} {items : List Ast} {n' : Node} (h : Splits n f g)
    (hitems : Node.ofItemsAfter g m items = some (n', m')) :
    ∃ n'', Node.ofItemsAfter n m items = some (n'', m') ∧ Splits n'' f n' := by
  induction items generalizing n g m with
  | nil =>
    obtain ⟨rfl, rfl⟩ := Prod.mk.inj (Option.some.inj hitems)
    exact ⟨n, rfl, h⟩
  | cons a items ih =>
    obtain ⟨⟨second, m₁⟩, hsecond, hrest⟩ := Option.bind_eq_some_iff.1 hitems
    obtain ⟨n'', hn'', hsplits⟩ := ih (h.cat second) hrest
    refine ⟨n'', ?_, hsplits⟩
    show (ofAst m a).bind _ = _
    rw [hsecond]
    exact hn''

theorem splits_look (l : Look) : Splits (.look l) (.look l) .empty := by
  refine ⟨fun p => ?_, rfl⟩
  rw [outcomes_cat, outcomes_look]
  split
  · rw [List.flatMap_cons, List.flatMap_nil, List.append_nil, after_start]
    rfl
  · rfl

theorem splits_cat (f g : Node) : Splits (.cat f g) f g := ⟨.refl _, rfl⟩

/-- The items behind a condition are what they are alone, behind the condition. -/
theorem exists_splits_look {m m' : Mode} {items : List Ast} (l : Look)
    (h : ofAst m (.ofItems items) = some (n, m')) :
    ∃ n', ofItemsAfter (.look l) m items = some (n', m') ∧ Splits n' (.look l) n := by
  match items with
  | [] =>
    obtain ⟨rfl, rfl⟩ := Prod.mk.inj (Option.some.inj h)
    exact ⟨.look l, rfl, splits_look l⟩
  | [a] =>
    have h : ofAst m a = some (n, m') := h
    refine ⟨.cat (.look l) n, ?_, splits_cat _ _⟩
    show (ofAst m a).bind _ = _
    rw [h]
    rfl
  | a :: b :: items =>
    obtain ⟨⟨first, m₁⟩, hfirst, hrest⟩ := Option.bind_eq_some_iff.1 h
    obtain ⟨n', hn', hsplits⟩ := (splits_cat (.look l) first).ofItemsAfter hrest
    refine ⟨n', ?_, hsplits⟩
    show (ofAst m a).bind _ = _
    rw [hfirst]
    exact hn'

theorem ofItemsAfter_append (first : Node) (m : Mode) (as bs : List Ast) :
    ofItemsAfter first m (as ++ bs) =
      (ofItemsAfter first m as).bind fun x => ofItemsAfter x.1 x.2 bs := by
  induction as generalizing first m with
  | nil => rfl
  | cons a as ih =>
    show (ofAst m a).bind _ = ((ofAst m a).bind _).bind _
    cases ofAst m a with
    | none => rfl
    | some x => exact ih (.cat first x.1) x.2

end Node
end Gazetteer.Regex
