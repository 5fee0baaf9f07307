import Gazetteer.Pattern.WordBoundary
import Gazetteer.Proofs.Outline.Agreement

/-! The text of a pattern with its escapes narrowed.

Only what follows a backslash is changed. A text without one is copied (`asciiFrom_of_unescaped`),
and what is put in the place of an escape begins with a character of its own, so whatever looks
copied was copied (`exists_of_asciiFrom_eq_append`). -/
namespace Gazetteer.Pattern

open Outline (Passes Unescaped)

variable {verbose : Bool} {s : Outline} {a b cs w : List Char} {c : Char}

theorem asciiFrom_cons (h : (s.next verbose c).1.escaped = false) (cs : List Char) :
    asciiFrom verbose s (c :: cs) = c :: asciiFrom verbose (s.next verbose c).1 cs := by
  cases cs with
  | nil => rfl
  | cons e cs =>
    rw [asciiFrom, if_neg]
    rintro heq
    simp only [Bool.and_eq_true, beq_iff_eq, Bool.not_eq_true'] at heq
    obtain ⟨⟨rfl, he⟩, hc⟩ := heq
    rw [Regex.next_slash he hc] at h
    exact absurd h (by simp)

theorem asciiFrom_escape (he : s.escaped = false) (hc : s.inComment = false) (c : Char)
    (cs : List Char) :
    asciiFrom verbose s ('\\' :: c :: cs) =
      asciiEscape (s.brackets > 0) c ++ asciiFrom verbose { s with fresh := false } cs := by
  rw [asciiFrom, if_pos (by simp [he, hc]), Regex.next_slash he hc]
  dsimp only
  rw [Regex.next_escaped rfl]
  obtain ⟨depth, brackets, fresh, escaped, inComment⟩ := s
  obtain rfl : escaped = false := he
  rfl

/-- A text in which nothing is escaped is copied. -/
theorem asciiFrom_of_unescaped (h : Unescaped verbose s w) (cs : List Char) :
    asciiFrom verbose s (w ++ cs) = w ++ asciiFrom verbose (s.after verbose w) cs := by
  induction w generalizing s with
  | nil => rfl
  | cons c w ih => rw [List.cons_append, asciiFrom_cons h.1, ih h.2]; rfl

theorem escaped_next (he : s.escaped = false) (hc : c ≠ '\\') :
    (s.next verbose c).1.escaped = false := by
  obtain ⟨depth, brackets, fresh, escaped, inComment⟩ := s
  obtain rfl : escaped = false := he
  have hslash : (c == '\\') = false := by simpa using hc
  simp only [Outline.next, hslash, Bool.false_eq_true, if_false]
  split
  · rfl
  · split
    · unfold Outline.inBrackets
      split
      · split <;> rfl
      · rfl
      · rfl
      · rfl
    · split
      · rfl
      · rfl
      · rfl
      · split <;> rfl
      · rfl

theorem unescaped_of_notMem (he : s.escaped = false) (hw : '\\' ∉ w) : Unescaped verbose s w := by
  induction w generalizing s with
  | nil => trivial
  | cons c w ih =>
    simp only [List.mem_cons, not_or] at hw
    have hnext : (s.next verbose c).1.escaped = false := escaped_next he (Ne.symm hw.1)
    exact ⟨hnext, ih hnext hw.2⟩

theorem Outline.Passes.asciiFrom {t : Outline} (h : Passes verbose s w t) (he : s.escaped = false)
    (hw : '\\' ∉ w) (cs : List Char) :
    asciiFrom verbose s (w ++ cs) = w ++ asciiFrom verbose t cs := by
  rw [asciiFrom_of_unescaped (unescaped_of_notMem he hw), h.after]

/-- A text that leaves no escape open is narrowed on its own. -/
theorem asciiFrom_append (h : (s.after verbose a).escaped = false) (b : List Char) :
    asciiFrom verbose s (a ++ b) =
      asciiFrom verbose s a ++ asciiFrom verbose (s.after verbose a) b := by
  fun_induction asciiFrom verbose s a with
  | case1 => rfl
  | case2 => exact asciiFrom_cons h b
  | case3 s c e cs hopen s' ih =>
    refine Eq.trans (if_pos hopen) ?_
    rw [List.append_assoc]
    exact congrArg (_ ++ ·) (ih h)
  | case4 s c e cs hopen ih => exact (if_neg hopen).trans (congrArg (c :: ·) (ih h))

/-! ### What looks copied was copied -/

/-- The characters that can stand first in the place of an escape. -/
def narrowedHeads : List Char := ['0', '[', '\\', '(']

theorem exists_of_asciiEscape (inBrackets : Bool) (c : Char) :
    ∃ d x, asciiEscape inBrackets c = d :: x ∧ d ∈ narrowedHeads := by
  unfold asciiEscape asciiSpelling
  split
  · rename_i heq
    split at heq
    case h_8 => exact absurd heq (by simp)
    all_goals
      obtain ⟨rfl, rfl⟩ := Prod.mk.inj (Option.some.inj heq)
      cases inBrackets <;> exact ⟨_, _, rfl, by decide⟩
  · exact ⟨_, _, rfl, by decide⟩

/-- A character is copied, or it is a backslash and what stands in its place shows it. -/
theorem asciiFrom_cons_cases (verbose : Bool) (s : Outline) (c : Char) (cs : List Char) :
    asciiFrom verbose s (c :: cs) = c :: asciiFrom verbose (s.next verbose c).1 cs ∨
      c = '\\' ∧ ∃ d x, asciiFrom verbose s (c :: cs) = d :: x ∧ d ∈ narrowedHeads := by
  cases cs with
  | nil => exact .inl rfl
  | cons e cs =>
    rw [asciiFrom]
    split
    · rename_i hopen
      simp only [Bool.and_eq_true, beq_iff_eq] at hopen
      obtain ⟨d, x, hx, hd⟩ := exists_of_asciiEscape (decide (s.brackets > 0)) e
      exact .inr ⟨hopen.1.1, d, _, congrArg (· ++ _) hx, hd⟩
    · exact .inl rfl

theorem exists_of_asciiFrom_eq_append {x : List Char} (hw : ∀ c ∈ w, c ∉ narrowedHeads)
    (h : asciiFrom verbose s cs = w ++ x) :
    ∃ y, cs = w ++ y ∧ asciiFrom verbose (s.after verbose w) y = x := by
  induction w generalizing s cs with
  | nil => exact ⟨cs, rfl, h⟩
  | cons c w ih =>
    cases cs with
    | nil => exact absurd h (by simp [asciiFrom])
    | cons d cs =>
      rcases asciiFrom_cons_cases verbose s d cs with hcopy | ⟨-, d', y, hnarrow, hd'⟩
      · obtain ⟨rfl, hrest⟩ := List.cons.inj (hcopy.symm.trans h)
        obtain ⟨y, rfl, hy⟩ := ih (fun e he => hw e (List.mem_cons_of_mem d he)) hrest
        exact ⟨y, rfl, hy⟩
      · obtain ⟨rfl, -⟩ := List.cons.inj (hnarrow.symm.trans h)
        exact absurd hd' (hw d' (List.mem_cons_self ..))

end Gazetteer.Pattern
