/-! Lines of a text, and numbers in it.

A text of ended lines with a last one behind them is split back into these lines
(`Text.lines_flatMap`). A decimal number before a mark that is no digit ends at the mark
(`Text.toString_append_inj`). -/
namespace Gazetteer.Text

/-! ### Lines -/

/-- The lines of a text. Behind a line end at the end of the text there is one more, empty line. -/
def lines (text : String) : List String := (text.toList.splitOn '\n').map String.ofList

/-- Lines that are ended one by one are separated by their ends. -/
theorem flatMap_append_eq_intercalate (x : Char) (ls : List (List Char)) (last : List Char) :
    ls.flatMap (· ++ [x]) ++ last = [x].intercalate (ls ++ [last]) := by
  induction ls with
  | nil => simp
  | cons l ls ih =>
    rw [List.flatMap_cons, List.append_assoc, ih, List.cons_append]
    cases ls with
    | nil => simp
    | cons l' ls => rw [List.cons_append, List.intercalate_cons_cons]

theorem lines_flatMap {ls : List String} {last : String} (h : ∀ l ∈ ls, '\n' ∉ l.toList)
    (hlast : '\n' ∉ last.toList) {text : String}
    (htext : text.toList = (ls.map String.toList).flatMap (· ++ ['\n']) ++ last.toList) :
    lines text = ls ++ [last] := by
  have hall : ∀ cs ∈ ls.map String.toList ++ [last.toList], '\n' ∉ cs :=
    List.forall_mem_append.mpr ⟨List.forall_mem_map.mpr h, List.forall_mem_singleton.mpr hlast⟩
  unfold lines
  rw [htext, flatMap_append_eq_intercalate, List.splitOn_intercalate '\n' hall (by simp)]
  simp [Function.comp_def]

/-! ### Numbers -/

theorem notMem_toString {c : Char} (hc : c.isDigit = false) (n : Nat) :
    c ∉ (toString n).toList := by
  intro hmem
  rw [Nat.toString_eq_repr, Nat.toList_repr] at hmem
  have hdigit := Nat.isDigit_of_mem_toDigits (by decide) (by decide) hmem
  rw [hc] at hdigit
  exact absurd hdigit (by simp)

/-- What stands before a mark ends at the first mark. -/
theorem append_cons_inj {x : Char} {a b xs ys : List Char} (ha : x ∉ a) (hb : x ∉ b)
    (h : a ++ x :: xs = b ++ x :: ys) : a = b ∧ xs = ys := by
  induction a generalizing b with
  | nil =>
    cases b with
    | nil => exact ⟨rfl, (List.cons.inj h).2⟩
    | cons c b => exact absurd ((List.cons.inj h).1 ▸ List.mem_cons_self) hb
  | cons c a ih =>
    cases b with
    | nil => exact absurd ((List.cons.inj h).1 ▸ List.mem_cons_self) ha
    | cons d b =>
      obtain ⟨rfl, htail⟩ := List.cons.inj h
      obtain ⟨rfl, hrest⟩ :=
        ih (List.not_mem_of_not_mem_cons ha) (List.not_mem_of_not_mem_cons hb) htail
      exact ⟨rfl, hrest⟩

theorem toString_append_inj {c : Char} (hc : c.isDigit = false) {m n : Nat} {xs ys : List Char}
    (h : (toString m).toList ++ c :: xs = (toString n).toList ++ c :: ys) : m = n ∧ xs = ys := by
  obtain ⟨hdigits, hrest⟩ := append_cons_inj (notMem_toString hc m) (notMem_toString hc n) h
  refine ⟨?_, hrest⟩
  rw [Nat.toString_eq_repr, Nat.toString_eq_repr, Nat.toList_repr, Nat.toList_repr] at hdigits
  rw [← Nat.ofDigitChars_toDigits (b := 10) (n := m) (by decide) (by decide), hdigits,
    Nat.ofDigitChars_toDigits (by decide) (by decide)]

end Gazetteer.Text
