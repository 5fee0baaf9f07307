import Gazetteer.Pattern.Outline

/-! Stretches of text without separators.

A scan is at a *level* when it stands outside brackets, escapes and comments. Most pieces of a
pattern lead a scan from one level to another and hold no separator of the whole pattern
(`Passes`), many of them without an escape (`Skims`). What holds of two neighbours holds of both
together (`Passes.append`), so a pattern is scanned piece by piece. -/
namespace Gazetteer.Pattern.Outline

/-- Outside brackets, escapes and comments, with `k` parentheses open. -/
def level (k : Nat) : Outline := ⟨k, 0, false, false, false⟩

/-- In a comment, with `k` parentheses open. -/
def comment (k : Nat) : Outline := ⟨k, 0, false, false, true⟩

/-- Inside `n` brackets, with `k` parentheses open. -/
def inside (k n : Nat) (fresh : Bool) : Outline := ⟨k, n, fresh, false, false⟩

/-- The scan gets from `s` to `t` over the text, which holds no separator. -/
structure Passes (verbose : Bool) (s : Outline) (cs : List Char) (t : Outline) : Prop where
  after : s.after verbose cs = t
  quiet : ∀ mark ∈ s.marks verbose cs, isSeparator mark = false

namespace Passes

variable {verbose : Bool} {s t r : Outline} {a b cs : List Char} {c : Char}

theorem nil : Passes verbose s [] s := ⟨rfl, by simp⟩

theorem append (h₁ : Passes verbose s a t) (h₂ : Passes verbose t b r) :
    Passes verbose s (a ++ b) r := by
  refine ⟨by rw [after_append, h₁.after, h₂.after], ?_⟩
  intro mark hmark
  rw [marks_append, h₁.after, List.mem_append] at hmark
  exact hmark.elim (h₁.quiet mark) (h₂.quiet mark)

theorem cons (h₁ : s.next verbose c = (t, o)) (hq : isSeparator (c, o) = false)
    (h₂ : Passes verbose t cs r) : Passes verbose s (c :: cs) r := by
  refine ⟨?_, ?_⟩
  · show (s.next verbose c).1.after verbose cs = r
    rw [h₁, h₂.after]
  · intro mark hmark
    simp only [marks, h₁, List.mem_cons] at hmark
    rcases hmark with rfl | hmark
    · exact hq
    · exact h₂.quiet mark hmark

/-- A single character. -/
theorem single (h : s.next verbose c = (t, o)) (hq : isSeparator (c, o) = false) :
    Passes verbose s [c] t :=
  cons h hq nil

/-- A character that carries no structure is no separator. -/
theorem cons_none (h₁ : s.next verbose c = (t, none)) (h₂ : Passes verbose t cs r) :
    Passes verbose s (c :: cs) r :=
  cons h₁ (by simp [isSeparator]) h₂

end Passes

/-- No character of the text is escaped. -/
def Unescaped (verbose : Bool) : Outline → List Char → Prop
  | _, [] => True
  | s, c :: cs => (s.next verbose c).1.escaped = false ∧ Unescaped verbose (s.next verbose c).1 cs

theorem Unescaped.append {verbose : Bool} {s : Outline} {a b : List Char}
    (ha : Unescaped verbose s a) (hb : Unescaped verbose (s.after verbose a) b) :
    Unescaped verbose s (a ++ b) := by
  induction a generalizing s with
  | nil => exact hb
  | cons c a ih => exact ⟨ha.1, ih ha.2 hb⟩

/-- The scan gets from `s` to `t` over the text without an escape, and meets no separator. -/
structure Skims (verbose : Bool) (s : Outline) (cs : List Char) (t : Outline) : Prop
    extends Passes verbose s cs t where
  unescaped : Unescaped verbose s cs

namespace Skims

variable {verbose : Bool} {s t r : Outline} {a b cs : List Char} {c : Char}

theorem nil : Skims verbose s [] s := ⟨.nil, trivial⟩

theorem append (h₁ : Skims verbose s a t) (h₂ : Skims verbose t b r) :
    Skims verbose s (a ++ b) r :=
  ⟨h₁.toPasses.append h₂.toPasses, h₁.unescaped.append (by rw [h₁.after]; exact h₂.unescaped)⟩

theorem cons (h₁ : s.next verbose c = (t, o)) (hq : isSeparator (c, o) = false)
    (he : t.escaped = false) (h₂ : Skims verbose t cs r) : Skims verbose s (c :: cs) r := by
  refine ⟨.cons h₁ hq h₂.toPasses, ?_, ?_⟩
  · rw [h₁, he]
  · rw [h₁]
    exact h₂.unescaped

/-- A character that carries no structure is no separator. -/
theorem cons_none (h₁ : s.next verbose c = (t, none)) (he : t.escaped = false)
    (h₂ : Skims verbose t cs r) : Skims verbose s (c :: cs) r :=
  cons h₁ (by simp [isSeparator]) he h₂

end Skims

/-! ### Characters without structure -/

/-- Whether a character outside brackets, escapes and comments tells a scan nothing. -/
def isOrdinary (c : Char) : Bool :=
  !(['[', '(', ')', '\\', '|', '#'].contains c)

theorem next_level_of_isOrdinary {verbose : Bool} {k : Nat} {c : Char} (h : isOrdinary c) :
    (level k).next verbose c = (level k, some k) := by
  simp only [isOrdinary, List.contains_eq_mem, List.mem_cons, List.not_mem_nil, or_false,
    Bool.not_eq_true', decide_eq_false_iff_not, not_or] at h
  obtain ⟨h₁, h₂, h₃, h₄, -, h₆⟩ := h
  simp only [next, level, h₄, beq_iff_eq, if_false, Nat.lt_irrefl, Bool.false_eq_true]

theorem isSeparator_of_isOrdinary {c : Char} (h : isOrdinary c) (o : Option Nat) :
    isSeparator (c, o) = false := by
  have : c ≠ '|' := by
    rintro rfl
    exact absurd h (by decide)
  simp [isSeparator, this]

/-- A text that a scan at any level skims. -/
def Inert (verbose : Bool) (cs : List Char) : Prop :=
  ∀ k, Skims verbose (level k) cs (level k)

namespace Inert

variable {verbose : Bool} {a b cs : List Char} {c : Char}

theorem nil : Inert verbose [] := fun _ => .nil

theorem append (ha : Inert verbose a) (hb : Inert verbose b) : Inert verbose (a ++ b) :=
  fun k => (ha k).append (hb k)

theorem cons (h : isOrdinary c) (hcs : Inert verbose cs) : Inert verbose (c :: cs) :=
  fun k => .cons (next_level_of_isOrdinary h) (isSeparator_of_isOrdinary h _) rfl (hcs k)

theorem of_forall (h : ∀ c ∈ cs, isOrdinary c) : Inert verbose cs := by
  induction cs with
  | nil => exact nil
  | cons c cs ih =>
    exact cons (h c (List.mem_cons_self ..)) (ih fun d hd => h d (List.mem_cons_of_mem c hd))

end Inert

end Gazetteer.Pattern.Outline
