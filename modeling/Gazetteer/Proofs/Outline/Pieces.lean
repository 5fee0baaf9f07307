import Gazetteer.Pattern.WordBoundary
import Gazetteer.Proofs.Outline.Passage

/-! A pattern cut at its separators.

A separator stands where a scan is back where it started (`Outline.eq_start_of_isSeparator`), so
what is behind it is scanned as a pattern of its own. Hence a pattern is either without
separators, or a piece that leads a scan from the start to the start, a bar, and a pattern
(`pieces_induction`). All that is done at separators is done piece by piece, and the anchors of
whole words stand around each piece (`cutsAtSeparators`). -/
namespace Gazetteer.Pattern

open Outline (isSeparator Passes level)

namespace Outline

/-- Outside parentheses, brackets, escapes and comments. -/
def AtRest (s : Outline) : Prop :=
  s.depth = 0 ∧ s.brackets = 0 ∧ s.escaped = false ∧ s.inComment = false

instance (s : Outline) : Decidable s.AtRest :=
  inferInstanceAs (Decidable (_ ∧ _ ∧ _ ∧ _))

/-- The characters of a text with the place of the scan before each. -/
def places (verbose : Bool) (s : Outline) : List Char → List (Outline × Char)
  | [] => []
  | c :: cs => (s, c) :: places verbose (s.next verbose c).1 cs

/-- No separator is met. -/
def Quiet (verbose : Bool) (s : Outline) (cs : List Char) : Prop :=
  ∀ mark ∈ s.marks verbose cs, isSeparator mark = false

variable {verbose : Bool} {s : Outline} {c : Char}

/-! ### Where a separator stands -/

/-- Only inside brackets a closing bracket could stand for itself. -/
def Tame (s : Outline) : Prop := s.brackets = 0 → s.fresh = false

theorem tame_start : start.Tame := fun _ => rfl

theorem Tame.next (h : s.Tame) (c : Char) : (s.next verbose c).1.Tame := by
  unfold Outline.next
  split
  · exact fun _ => rfl
  · split
    · exact h
    · split
      · exact h
      · split
        · rename_i hbrackets
          unfold inBrackets
          split
          · split
            · exact fun _ => rfl
            · exact fun _ => rfl
          · exact fun hzero => absurd hzero (Nat.ne_of_gt hbrackets)
          · exact fun hzero => absurd hzero (Nat.succ_ne_zero _)
          · exact fun _ => rfl
        · split
          · exact fun hone => absurd hone Nat.one_ne_zero
          · exact h
          · exact h
          · split <;> exact h
          · exact h

theorem Tame.after (h : s.Tame) (cs : List Char) : (s.after verbose cs).Tame := by
  induction cs generalizing s with
  | nil => exact h
  | cons c cs ih => exact ih (h.next c)

theorem AtRest.eq_start (h : s.AtRest) (ht : s.Tame) : s = start := by
  obtain ⟨depth, brackets, fresh, escaped, inComment⟩ := s
  obtain ⟨rfl, rfl, rfl, rfl⟩ := h
  obtain rfl : fresh = false := ht rfl
  rfl

/-- A bar that is a separator stands at the start, and leaves the scan there. -/
theorem eq_start_of_isSeparator (ht : s.Tame) (h : isSeparator (c, (s.next verbose c).2)) :
    c = '|' ∧ s = start := by
  obtain ⟨hc, hdepth⟩ : c = '|' ∧ (s.next verbose c).2 = some 0 := by
    simpa [isSeparator] using h
  subst hc
  refine ⟨rfl, AtRest.eq_start ?_ ht⟩
  unfold Outline.next at hdepth
  split at hdepth
  · exact absurd hdepth (by simp)
  · rename_i hescaped
    split at hdepth
    · exact absurd hdepth (by simp)
    · rename_i hcomment
      split at hdepth
      · exact absurd hdepth (by simp)
      · split at hdepth
        · exact absurd hdepth (by simp)
        · rename_i hbrackets
          exact ⟨Option.some.inj hdepth, Nat.eq_zero_of_not_pos hbrackets, by simpa using hescaped,
            by simpa using hcomment⟩

/-- A text is quiet, or a first piece of it leads back to the start where a separator stands. -/
theorem quiet_or_exists_separator (verbose : Bool) (ht : s.Tame) (cs : List Char) :
    Quiet verbose s cs ∨ ∃ a q, cs = a ++ '|' :: q ∧ Passes verbose s a start := by
  induction cs generalizing s with
  | nil => exact .inl (by simp [Quiet])
  | cons c cs ih =>
    cases hsep : isSeparator (c, (s.next verbose c).2) with
    | true =>
      obtain ⟨rfl, rfl⟩ := eq_start_of_isSeparator ht hsep
      exact .inr ⟨[], cs, rfl, .nil⟩
    | false =>
      rcases ih (ht.next c) with hquiet | ⟨a, q, rfl, hpasses⟩
      · refine .inl fun mark hmark => ?_
        rcases List.mem_cons.mp hmark with rfl | hmark
        · exact hsep
        · exact hquiet mark hmark
      · exact .inr ⟨c :: a, q, rfl, .cons rfl hsep hpasses⟩

theorem map_fst_marks (verbose : Bool) (s : Outline) (cs : List Char) :
    (s.marks verbose cs).map Prod.fst = cs := by
  induction cs generalizing s with
  | nil => rfl
  | cons c cs ih => rw [marks, List.map_cons, ih]

end Outline

/-! ### Pieces -/

/-- The texts between the separators of a pattern. -/
def pieces (verbose : Bool) (pattern : List Char) : List (List Char) :=
  ((Outline.start.marks verbose pattern).splitOnP isSeparator).map (List.map Prod.fst)

section

variable {verbose : Bool} {a p q : List Char}

theorem pieces_of_quiet (h : Outline.start.Quiet verbose p) : pieces verbose p = [p] := by
  unfold pieces
  rw [List.splitOnP_eq_singleton h, List.map_singleton, Outline.map_fst_marks]

/-- Behind a text that leads back to the start a bar separates. -/
theorem pieces_bar (h : Outline.start.after verbose p = .start) (q : List Char) :
    pieces verbose (p ++ '|' :: q) = pieces verbose p ++ pieces verbose q := by
  unfold pieces
  rw [Outline.marks_append, h, Outline.marks, List.splitOnP_append_cons _ _ (by rfl),
    List.map_append]
  rfl

theorem pieces_cons (h : Passes verbose .start a .start) (q : List Char) :
    pieces verbose (a ++ '|' :: q) = a :: pieces verbose q := by
  rw [pieces_bar h.after, pieces_of_quiet h.quiet, List.singleton_append]

theorem pieces_ne_nil (verbose : Bool) (p : List Char) : pieces verbose p ≠ [] := by
  unfold pieces
  exact mt List.map_eq_nil_iff.mp (List.splitOnP_ne_nil _ _)

/-- What holds of patterns without separators, and of a pattern behind a piece if it holds of the
pattern, holds of every pattern. -/
@[elab_as_elim]
theorem pieces_induction (verbose : Bool) {motive : List Char → Prop}
    (quiet : ∀ p, Outline.start.Quiet verbose p → motive p)
    (bar : ∀ a q, Passes verbose .start a .start → motive q → motive (a ++ '|' :: q))
    (p : List Char) : motive p := by
  induction hn : p.length using Nat.strongRecOn generalizing p with
  | ind n ih =>
    rcases Outline.quiet_or_exists_separator verbose Outline.tame_start p with
      hquiet | ⟨a, q, rfl, hpasses⟩
    · exact quiet p hquiet
    · refine bar a q hpasses (ih q.length ?_ q rfl)
      rw [← hn, List.length_append, List.length_cons]
      omega

theorem intercalate_pieces_bar (h : Passes verbose .start a .start) (sep : List Char)
    (f : List Char → List Char) (q : List Char) :
    List.intercalate sep ((pieces verbose (a ++ '|' :: q)).map f) =
      f a ++ sep ++ List.intercalate sep ((pieces verbose q).map f) := by
  rw [pieces_cons h]
  cases hq : pieces verbose q with
  | nil => exact absurd hq (pieces_ne_nil verbose q)
  | cons b bs => rw [List.map_cons, List.map_cons, List.intercalate_cons_cons]

/-- The pieces with bars between them are the pattern. -/
theorem intercalate_pieces (verbose : Bool) (p : List Char) :
    List.intercalate ['|'] (pieces verbose p) = p := by
  induction p using pieces_induction verbose with
  | quiet p h =>
    rw [pieces_of_quiet h]
    exact List.intercalate_singleton
  | bar a q h ih =>
    have hcut := intercalate_pieces_bar h ['|'] id q
    rw [List.map_id, List.map_id, ih] at hcut
    rw [hcut, List.append_assoc]
    rfl

theorem quiet_of_mem_pieces {b : List Char} (h : b ∈ pieces verbose p) :
    Outline.start.Quiet verbose b := by
  induction p using pieces_induction verbose with
  | quiet p hp =>
    rw [pieces_of_quiet hp, List.mem_singleton] at h
    exact h ▸ hp
  | bar a q ha ih =>
    rw [pieces_cons ha] at h
    rcases List.mem_cons.mp h with rfl | h
    · exact ha.quiet
    · exact ih h

theorem length_pieces (verbose : Bool) (p : List Char) :
    (pieces verbose p).length = alternatives verbose (.ofList p) := by
  unfold pieces alternatives
  rw [String.toList_ofList, List.length_map]
  induction Outline.start.marks verbose p with
  | nil => rfl
  | cons mark marks ih =>
    rw [List.splitOnP_cons_eq_if_modifyHead, List.countP_cons]
    split <;> simp [ih]

theorem alternatives_of_quiet (h : Outline.start.Quiet verbose p) :
    alternatives verbose (.ofList p) = 1 := by
  rw [← length_pieces, pieces_of_quiet h, List.length_singleton]

/-! ### Anchors -/

/-- Alternatives with the anchor on both sides of each, the last one on a line of its own in a
verbose pattern. -/
def boundedAlternatives (anchor : Anchor) (verbose : Bool) (ps : List (List Char)) : List Char :=
  anchor.text ++ List.intercalate (anchor.text ++ '|' :: anchor.text) ps ++
    (if verbose then ['\n'] else []) ++ anchor.text

theorem anchorSeparators_of_quiet (anchor : Anchor) {s : Outline} {cs : List Char}
    (h : s.Quiet verbose cs) : anchorSeparators anchor (s.marks verbose cs) = cs := by
  have hcopied : ∀ marks : List (Char × Option Nat), (∀ mark ∈ marks, isSeparator mark = false) →
      anchorSeparators anchor marks = marks.map Prod.fst := by
    intro marks hmarks
    induction marks with
    | nil => rfl
    | cons mark marks ih =>
      unfold anchorSeparators at ih ⊢
      rw [List.flatMap_cons, hmarks mark (List.mem_cons_self ..),
        ih fun m hm => hmarks m (List.mem_cons_of_mem _ hm)]
      rfl
  rw [hcopied _ h, Outline.map_fst_marks]

theorem Outline.Passes.anchorSeparators {s t : Outline} {w : List Char} (h : Passes verbose s w t)
    (anchor : Anchor) (cs : List Char) :
    Pattern.anchorSeparators anchor (s.marks verbose (w ++ cs)) =
      w ++ Pattern.anchorSeparators anchor (t.marks verbose cs) := by
  have hcopied := anchorSeparators_of_quiet anchor h.quiet
  rw [Outline.marks_append, h.after]
  unfold Pattern.anchorSeparators at hcopied ⊢
  rw [List.flatMap_append, hcopied]

theorem anchorSeparators_eq (anchor : Anchor) (verbose : Bool) (p : List Char) :
    anchorSeparators anchor (Outline.start.marks verbose p) =
      List.intercalate (anchor.text ++ '|' :: anchor.text) (pieces verbose p) := by
  induction p using pieces_induction verbose with
  | quiet p h =>
    rw [anchorSeparators_of_quiet anchor h, pieces_of_quiet h]
    exact List.intercalate_singleton.symm
  | bar a q h ih =>
    have hcut := intercalate_pieces_bar h (anchor.text ++ '|' :: anchor.text) id q
    rw [List.map_id, List.map_id, id] at hcut
    rw [hcut, ← ih, h.anchorSeparators, List.append_assoc]
    rfl

theorem bounded_eq (anchor : Anchor) (verbose : Bool) (p : List Char) :
    bounded anchor verbose p = boundedAlternatives anchor verbose (pieces verbose p) := by
  unfold bounded boundedAlternatives
  rw [anchorSeparators_eq]

end

/-! ### Parentheses around a pattern -/

namespace Outline

variable {verbose : Bool} {s : Outline} {c : Char}

/-- Every closing parenthesis that the scan sees closes one that was opened before. -/
def ClosesOpened (verbose : Bool) (s : Outline) (cs : List Char) : Prop :=
  ∀ place ∈ s.places verbose cs,
    place.2 = ')' → (place.1.next verbose ')').2 ≠ none → 0 < place.1.depth

instance (verbose : Bool) (s : Outline) (cs : List Char) : Decidable (s.ClosesOpened verbose cs) :=
  inferInstanceAs (Decidable (∀ place ∈ _, _ → _ → _))

/-- The same place inside one parenthesis more. -/
def deeper (s : Outline) : Outline := { s with depth := s.depth + 1 }

theorem next_deeper (h : c = ')' → (s.next verbose ')').2 ≠ none → 0 < s.depth) :
    s.deeper.next verbose c = ((s.next verbose c).1.deeper, (s.next verbose c).2.map (· + 1)) := by
  obtain ⟨depth, brackets, fresh, escaped, inComment⟩ := s
  unfold deeper Outline.next at *
  dsimp only at *
  split
  · rfl
  · split
    · rfl
    · split
      · rfl
      · split
        · unfold inBrackets
          dsimp only
          split
          · split <;> rfl
          · rfl
          · rfl
          · rfl
        · split
          · rfl
          · rfl
          · have hpos : 0 < depth := h rfl (by simp_all)
            have hpred : depth + 1 - 1 = depth - 1 + 1 := by omega
            simp only [hpred, Option.map_some]
          · split <;> rfl
          · rfl

/-- Inside a parenthesis that stays open no bar separates. -/
theorem passes_deeper {cs : List Char} (h : s.ClosesOpened verbose cs) :
    Passes verbose s.deeper cs (s.after verbose cs).deeper := by
  induction cs generalizing s with
  | nil => exact .nil
  | cons c cs ih =>
    have hhead := h (s, c) (List.mem_cons_self ..)
    have htail : (s.next verbose c).1.ClosesOpened verbose cs :=
      fun place hplace => h place (List.mem_cons_of_mem _ hplace)
    refine .cons (next_deeper hhead) ?_ (ih htail)
    cases (s.next verbose c).2 <;> simp [isSeparator]

theorem passes_parenthesized {p : List Char} (h : start.ClosesOpened verbose p)
    (hrest : (start.after verbose p).AtRest) :
    Passes verbose start ('(' :: (p ++ [')'])) start := by
  have hstart := hrest.eq_start (tame_start.after p)
  have hinner := passes_deeper h
  rw [hstart] at hinner
  exact .cons (t := start.deeper) rfl (by decide) (hinner.append (.single rfl (by decide)))

end Outline

/-- **Anchors stand around each piece of a pattern**, and pieces of a pattern that ends at rest
stay pieces before a bar and become one between parentheses. -/
theorem cutsAtSeparators (anchor : Anchor) (verbose : Bool) (p : List Char) :
    (pieces verbose p).length = alternatives verbose (.ofList p) ∧
    List.intercalate ['|'] (pieces verbose p) = p ∧
    bounded anchor verbose p = boundedAlternatives anchor verbose (pieces verbose p) ∧
    (∀ a ∈ pieces verbose p, alternatives verbose (.ofList a) = 1) ∧
    ((Outline.start.after verbose p).AtRest →
      (∀ q, alternatives verbose (.ofList (p ++ '|' :: q)) =
          alternatives verbose (.ofList p) + alternatives verbose (.ofList q) ∧
        pieces verbose (p ++ '|' :: q) = pieces verbose p ++ pieces verbose q) ∧
      (Outline.start.ClosesOpened verbose p →
        pieces verbose ('(' :: (p ++ [')'])) = ['(' :: (p ++ [')'])] ∧
        bounded anchor verbose ('(' :: (p ++ [')'])) =
          anchor.text ++ '(' :: (p ++ [')']) ++ (if verbose then ['\n'] else []) ++
            anchor.text)) := by
  refine ⟨length_pieces verbose p, intercalate_pieces verbose p, bounded_eq anchor verbose p,
    fun a ha => alternatives_of_quiet (quiet_of_mem_pieces ha), fun hrest => ⟨fun q => ?_, ?_⟩⟩
  · have hcut := pieces_bar (hrest.eq_start (Outline.tame_start.after p)) q
    refine ⟨?_, hcut⟩
    rw [← length_pieces, ← length_pieces, ← length_pieces, hcut, List.length_append]
  · intro hcloses
    have hone := pieces_of_quiet (Outline.passes_parenthesized hcloses hrest).quiet
    refine ⟨hone, ?_⟩
    rw [bounded_eq, hone]
    unfold boundedAlternatives
    rw [List.intercalate_singleton]

/-- The class, the group and the comment of this pattern all hold bars and parentheses. -/
theorem cutsAtSeparators_with_comment :
    let p := "a|(b|[|)])#)|(\n".toList
    (Outline.start.after true p).AtRest ∧ Outline.start.ClosesOpened true p ∧
      pieces true p = ["a".toList, "(b|[|)])#)|(\n".toList] ∧
      pieces true (p ++ '|' :: "c|d".toList) =
        ["a".toList, "(b|[|)])#)|(\n".toList, "c".toList, "d".toList] ∧
      pieces true ('(' :: (p ++ [')'])) = ["(a|(b|[|)])#)|(\n)".toList] := by
  intro p
  have hrest : (Outline.start.after true p).AtRest := by decide
  have hcloses : Outline.start.ClosesOpened true p := by decide
  obtain ⟨-, -, -, -, h⟩ := cutsAtSeparators .unicode true p
  obtain ⟨hbar, hparentheses⟩ := h hrest
  have hp : pieces true p = ["a".toList, "(b|[|)])#)|(\n".toList] := by decide
  refine ⟨hrest, hcloses, hp, ?_, (hparentheses hcloses).1⟩
  rw [(hbar "c|d".toList).2, hp]
  rfl

end Gazetteer.Pattern
