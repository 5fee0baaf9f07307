import Gazetteer.Proofs.Group.Source
import Gazetteer.Proofs.Outline.Anchors
import Gazetteer.Proofs.Reading.Flags

/-! A pattern between two anchors.

The anchors can stand around the pattern as a whole, which is then a group of its own
(`Pattern.framed`), or around each of its alternatives (`Pattern.bounded`). Both texts are read as
patterns made of the same alternatives (`Pattern.exists_alternatives`). -/
namespace Gazetteer

open Pattern (Anchor Outline bounded)

namespace Regex

namespace Token

theorem lexeme_plainGroup (verbose : Bool) (tl : List Char) :
    Lexeme verbose tl ['(', '?', ':'] (.openGroup (.plain [])) := by
  refine .group (b := []) (Blank.nil _)
    ⟨rfl, fun _ => rfl, fun _ v k => ?_, fun _ => by decide, by decide⟩
  have hall := List.all_eq_true.mp (by decide : ['?', ':'].all Pattern.Outline.isOrdinary)
  exact ((Pattern.Outline.Inert.of_forall hall) (k + 1)).toPasses

end Token

/-! ### The end of a line -/

/-- What a verbose pattern is followed by. -/
def lineEnd (verbose : Bool) : List Char := if verbose then ['\n'] else []

theorem closing_eq (verbose : Bool) : closing verbose = lineEnd verbose ++ [')'] := by
  cases verbose <;> rfl

namespace Draft

/-- The draft after the end of a line; a line feed is an item once the pattern is not verbose any
more. -/
def endLine (verbose : Bool) (d : Draft) : Draft :=
  if verbose && !d.verbose then d.push (.literal '\n' false) else d

variable {verbose o : Bool} {d e : Draft} {cs : List Char}

theorem addText_newline (hd : d.verbose = false) (x : List Char) :
    d.addText ('\n' :: x) = (d.push (.literal '\n' false)).addText x := by
  refine addText_token (b := []) (w := ['\n']) ?_ (.single rfl) ?_ rfl
  · rw [hd]
    exact Blank.nil _
  · rw [hd]
    rfl

/-- A pattern that was read to its end goes on behind the end of the line. -/
theorem Lexed.before_lineEnd (h : Lexed d cs e o) (ho : verbose = false → o = false) {c : Char}
    (hmeta : c ∈ ['\\', '(', ')', '|']) (x : List Char) :
    Neutral e.verbose o (lineEnd verbose ++ c :: x) ∧
      ∀ z : Draft, z.verbose = e.verbose →
        z.addText (if o then dropBlanks true (lineEnd verbose ++ c :: x)
          else lineEnd verbose ++ c :: x) = (z.endLine verbose).addText (c :: x) := by
  have hquestion : some c ≠ some '?' := by
    intro heq
    rw [Option.some.inj heq] at hmeta
    exact absurd hmeta (by decide)
  have hbrace : c ≠ '{' := by
    rintro rfl
    exact absurd hmeta (by decide)
  have hsolid := fun v => skipBlanks_of_isSolid (isSolid_of_meta v hmeta) x
  cases verbose with
  | false =>
    obtain rfl := ho rfl
    refine ⟨⟨hquestion, ?_, Escape.endsBoundary_of_ne hbrace⟩, fun _ _ => rfl⟩
    show (skipBlanks e.verbose (c :: x)).head? ≠ _
    rw [hsolid]
    exact hquestion
  | true =>
    have hnewline : ('\n' :: c :: x).head? ≠ some '?' := by simp
    have hedge : Escape.endsBoundary e.verbose ('\n' :: c :: x) = true :=
      Escape.endsBoundary_of_ne (by decide)
    cases hv : e.verbose with
    | false =>
      obtain rfl := h.closed_of_plain hv
      rw [hv] at hedge
      refine ⟨⟨hnewline, hnewline, hedge⟩, fun z hz => ?_⟩
      unfold endLine
      rw [hz]
      exact addText_newline hz _
    | true =>
      have hskip := skipBlanks_newline (isSolid_of_meta true hmeta) o x
      rw [hv] at hedge
      refine ⟨⟨hnewline, ?_, hedge⟩, fun z hz => ?_⟩
      · show (skipBlanks true _).head? ≠ _
        rw [show lineEnd true ++ c :: x = '\n' :: c :: x from rfl, hskip]
        exact hquestion
      · have hz' : z.endLine true = z := by
          unfold endLine
          rw [hz]
          rfl
        rw [hz']
        refine addText_congr ?_
        rw [hz]
        exact hskip.trans (hsolid true).symm

end Draft

/-! ### Reading from the start -/

theorem Ast.read_of_addText {verbose : Bool} {cs : List Char} {d : Draft}
    (h : (Draft.start verbose).addText cs = some d) (hopened : d.opened = [])
    (hheight : d.level.content.height ≤ heightLimit) :
    read verbose (.ofList cs) = some d.level.content := by
  unfold read Draft.finish
  rw [String.toList_ofList, h, Option.bind_eq_bind, Option.bind_some, hopened]
  exact if_pos hheight

theorem Ast.addText_of_read {verbose : Bool} {cs : List Char} {a : Ast}
    (h : read verbose (.ofList cs) = some a) :
    a.height ≤ heightLimit ∧ ∃ d, (Draft.start verbose).addText cs = some d ∧ d.opened = [] ∧
      d.level.content = a := by
  obtain ⟨hheight, d, o, hlexed, hopened, hcontent⟩ := read_eq_some h
  rw [String.toList_ofList] at hlexed
  exact ⟨hheight, d, hlexed.addText, hopened, hcontent⟩

namespace Draft

variable {verbose o : Bool} {d e : Draft} {cs : List Char}

theorem addText_lastAnchor (anchor : Anchor) (d : Draft) :
    d.addText anchor.text = some (d.push (anchorAst anchor)) := by
  rw [← List.append_nil anchor.text, addText_anchor anchor d rfl, addText_nil]

theorem opened_endLine (verbose : Bool) (d : Draft) : (d.endLine verbose).opened = d.opened := by
  unfold endLine
  split <;> rfl

theorem endLine_within (verbose : Bool) (d e : Draft) :
    (d.within e).endLine verbose = d.within (e.endLine verbose) := by
  unfold endLine
  show (if verbose && !e.verbose then _ else _) = _
  split <;> rfl

theorem anchored_of_nil (h : d.opened = []) (a : Ast) (done : List Ast) :
    d.anchored a done = { d with level := anchorLevel a done d.level } := by
  obtain ⟨level, opened, v, captures, names⟩ := d
  obtain rfl : opened = [] := h
  rfl

theorem endLine_anchored (h : e.opened = []) (verbose : Bool) (a : Ast) (done : List Ast) :
    (e.anchored a done).endLine verbose = (e.endLine verbose).anchored a done := by
  rw [anchored_of_nil h, anchored_of_nil ((opened_endLine verbose e).trans h)]
  unfold endLine
  show (if verbose && !e.verbose then _ else _) = _
  split <;> rfl

/-- The group around a pattern is read as one item around what the pattern is read as. -/
theorem addText_closeGroup {d : Draft} {kind : GroupKind} {outer : Level}
    (hd : d.opened = [⟨kind, outer, verbose⟩]) (hcaptures : d.captures = 0)
    (hopened : e.opened = []) (tail : List Char) :
    ∃ z : Draft, z.opened = [] ∧ z.level = outer.push (.group kind e.level.content) ∧
      (d.within e).addText (')' :: tail) = z.addText tail := by
  have hrenumber : ∀ l : Level, l.renumber (d.captures + ·) = l := by
    intro l
    have hfixed : ∀ as : List Ast, as.map (Ast.renumber (d.captures + ·)) = as := fun as => by
      rw [← Ast.renumberAll_eq_map, Ast.renumberAll_of_fixed fun i => by omega]
    unfold Level.renumber
    rw [hfixed, hfixed]
  have hclose : (d.within e).add .closeGroup = some
      { d.within e with
        level := outer.push (.group kind e.level.content), opened := [], verbose } := by
    unfold add within
    rw [hopened, hd, hrenumber]
    rfl
  exact ⟨_, rfl, rfl, addText_token (d := d.within e) (b := []) (w := [')']) (Blank.nil _) .close
    (isSolid_of_meta _ (by simp)) hclose⟩

/-- A scan that is not verbose agrees with no comment that is left open. -/
theorem Lexed.closed_of_agrees (h : Lexed d cs e o) (ha : d.agrees false cs) : o = false := by
  induction h with
  | @blank d b o hb =>
    rw [agrees_eq, hb.skip_eq_nil] at ha
    cases hv : d.verbose with
    | false =>
      rw [hv] at hb
      exact hb.2
    | true =>
      rw [hv] at hb ha
      have hbare : bare '#' b = false := by simpa using ha
      exact (isSpace_of_commentAfter hb hbare).2
  | token hb hw hsolid hadd _ ih => exact ih (agrees_token hb hw hsolid hadd ha).2.2.2

/-- The pattern in a group between two anchors is read as an item between two items. -/
theorem Lexed.addText_framed (h : Lexed (start verbose) cs e o) (hopened : e.opened = [])
    (ho : verbose = false → o = false) (anchor : Anchor) {z : Draft}
    (hz : (start verbose).addText (anchor.text ++ (['(', '?', ':'] ++ (cs ++
      (lineEnd verbose ++ ')' :: anchor.text)))) = some z) :
    z.opened = [] ∧ z.level.content =
      .concat [anchorAst anchor, .group (.plain []) (e.endLine verbose).level.content,
        anchorAst anchor] := by
  let inner : Draft := ⟨.empty, [⟨.plain [], ⟨[], [anchorAst anchor]⟩, verbose⟩], verbose, 0, []⟩
  have hinner : inner.within (start verbose) = inner := within_start rfl
  have hopen : ((start verbose).push (anchorAst anchor)).addText (['(', '?', ':'] ++ (cs ++
      (lineEnd verbose ++ ')' :: anchor.text))) = inner.addText (cs ++
      (lineEnd verbose ++ ')' :: anchor.text)) :=
    addText_token (b := []) (Blank.nil _) (Token.lexeme_plainGroup _ _)
      (isSolid_of_meta _ (by simp)) rfl
  obtain ⟨hn, hline⟩ := h.before_lineEnd ho (c := ')') (by simp) anchor.text
  have hfirst : Escape.endsBoundary verbose (['(', '?', ':'] ++ (cs ++
      (lineEnd verbose ++ ')' :: anchor.text))) = true := Escape.endsBoundary_of_ne (by decide)
  rw [addText_anchor anchor _ hfirst, hopen, ← hinner] at hz
  have hbody := h.addText_within hn hz
  rw [hline (inner.within e) rfl, endLine_within] at hbody
  obtain ⟨z', hz', hlevel, hclose⟩ := addText_closeGroup (d := inner) rfl rfl
    ((opened_endLine verbose e).trans hopened) anchor.text
  rw [hclose, addText_lastAnchor] at hbody
  obtain rfl := Option.some.inj hbody
  refine ⟨hz', ?_⟩
  show (z'.level.push _).content = _
  rw [hlevel]
  rfl

/-- The items of all alternatives, once no group is open. -/
def alternatives (e : Draft) (done : List (List Ast)) : List (List Ast) :=
  (e.level.items.reverse :: done).reverse

/-- The pattern with anchors at its separators is read as its alternatives, each between two
items. -/
theorem Lexed.addText_bounded (h : Lexed (start verbose) cs e o) (hopened : e.opened = [])
    (ho : verbose = false → o = false) (ha : (start verbose).agrees verbose cs)
    (anchor : Anchor) :
    ∃ done z, e.Finished done ∧
      (start verbose).addText (bounded anchor verbose cs) = some z ∧ z.opened = [] ∧
      z.level.content = .ofBranches
        (((e.endLine verbose).alternatives done).map (bounds (anchorAst anchor))) := by
  obtain ⟨c, x, htext, hmeta⟩ := anchor_cons anchor
  obtain ⟨hn, hline⟩ := h.before_lineEnd ho hmeta x
  rw [← htext] at hn hline
  have hfirst := (h.alike_anchored ha anchor hn).edge
  obtain ⟨done, hdone, hread⟩ := h.addText_anchored ha anchor hn
    (show (start verbose).Finished [] from rfl)
  have hopened' := (opened_endLine verbose e).trans hopened
  have hbounded : bounded anchor verbose cs = anchor.text ++
      (anchoredText anchor verbose 0 cs ++ (lineEnd verbose ++ anchor.text)) := by
    unfold bounded
    rw [List.append_assoc, List.append_assoc]
    rfl
  refine ⟨done, ((e.endLine verbose).anchored (anchorAst anchor)
    (done.map (bounds (anchorAst anchor)))).push (anchorAst anchor), hdone, ?_, ?_, ?_⟩
  · rw [hbounded]
    refine (addText_anchor anchor _ hfirst).trans (hread.trans ?_)
    refine (hline (e.anchored _ _) rfl).trans ?_
    rw [endLine_anchored hopened]
    exact addText_lastAnchor anchor _
  · rw [anchored_of_nil hopened']
    exact hopened'
  · unfold alternatives
    rw [anchored_of_nil hopened', List.map_reverse, List.map_cons]
    have hitems : ∀ items : List Ast, (anchorAst anchor :: (items ++ [anchorAst anchor])).reverse =
        anchorAst anchor :: items.reverse ++ [anchorAst anchor] := fun items => by
      rw [List.reverse_cons, List.reverse_append]
      rfl
    show Ast.ofBranches (Ast.ofItems (anchorAst anchor :: (_ ++ [anchorAst anchor])).reverse ::
      _).reverse = _
    rw [hitems]
    rfl

end Draft

/-! ### Alternatives -/

namespace Draft

variable {verbose : Bool} {e : Draft} {done : List (List Ast)}

theorem branches_of_finished (hd : e.Finished done) (hopened : e.opened = []) :
    e.level.branches = done.map Ast.ofItems := by
  rw [← hd, outermost_of_nil hopened]

theorem content_of_branches (h : e.level.branches = done.map Ast.ofItems) :
    e.level.content = .ofBranches ((e.alternatives done).map .ofItems) := by
  unfold Level.content alternatives
  rw [h, List.map_reverse, List.map_cons]
  rfl

theorem branches_endLine (verbose : Bool) (e : Draft) :
    (e.endLine verbose).level.branches = e.level.branches := by
  unfold endLine
  split <;> rfl

theorem unicodeAfter_endLine (verbose : Bool) (e : Draft) (u : Bool) :
    Ast.unicodeAfterAll u (e.endLine verbose).level.items.reverse =
      Ast.unicodeAfterAll u e.level.items.reverse := by
  unfold endLine
  split
  · show Ast.unicodeAfterAll u (Ast.literal '\n' false :: e.level.items).reverse = _
    rw [List.reverse_cons, Ast.unicodeAfterAll_append]
    rfl
  · rfl

/-- The Unicode flag is in force behind every alternative if it is in force wherever one ends. -/
theorem unicodeAfter_alternatives (hp : e.Plain) (hopened : e.opened = [])
    (hbranches : e.level.branches = done.map Ast.ofItems) (hkeeps : e.level.content.keepsUnicode)
    {items : List Ast} (hitems : items ∈ (e.endLine verbose).alternatives done) :
    (Ast.ofItems items).unicodeAfter true := by
  have hone : ∀ a, (e.alternatives done).map Ast.ofItems = [a] → a.branchCount = 1 := by
    intro a ha
    cases done with
    | nil =>
      obtain rfl := List.singleton_inj.mp ha
      refine branchCount_ofItems fun b hb => hp b ?_
      rw [outermost_of_nil hopened]
      exact List.mem_reverse.mp hb
    | cons items' done =>
      have hlength := congrArg List.length ha
      simp [alternatives] at hlength
  rw [content_of_branches hbranches, Ast.keepsUnicode_ofBranches hone, List.all_map,
    List.all_eq_true] at hkeeps
  rw [Ast.unicodeAfter_ofItems]
  rcases List.mem_cons.mp (List.mem_reverse.mp hitems) with rfl | hitems
  · rw [unicodeAfter_endLine, ← Ast.unicodeAfter_ofItems]
    exact hkeeps _ (List.mem_reverse.mpr (List.mem_cons_self ..))
  · rw [← Ast.unicodeAfter_ofItems]
    exact hkeeps _ (List.mem_reverse.mpr (List.mem_cons_of_mem _ hitems))

end Draft

/-! ### Nesting -/

namespace Ast

theorem heights_le_iff {parts : List Ast} {n : Nat} :
    heights parts ≤ n ↔ ∀ part ∈ parts, part.height ≤ n := by
  induction parts with
  | nil => simp [heights]
  | cons part parts ih => rw [heights, Nat.max_le, ih, List.forall_mem_cons]

theorem heights_le_ofItems (items : List Ast) : heights items ≤ (ofItems items).height := by
  rcases items with _ | ⟨a, _ | ⟨b, items⟩⟩
  · exact Nat.le_refl _
  · exact Nat.max_le.mpr ⟨Nat.le_refl _, Nat.zero_le _⟩
  · exact Nat.le_succ _

theorem height_bounds (anchor : Anchor) {items : List Ast} {n : Nat}
    (h : (ofItems items).height ≤ n) :
    (Draft.bounds (anchorAst anchor) items).height ≤ max n 1 + 1 := by
  have hanchor : (anchorAst anchor).height ≤ max n 1 := by
    cases anchor
    · exact Nat.zero_le _
    · exact Nat.le_max_right ..
  have hcons : Draft.bounds (anchorAst anchor) items =
      .concat (anchorAst anchor :: items ++ [anchorAst anchor]) := by
    cases items <;> rfl
  rw [hcons]
  refine Nat.succ_le_succ (heights_le_iff.mpr fun a ha => ?_)
  rcases List.mem_append.mp ha with ha | ha
  · rcases List.mem_cons.mp ha with rfl | ha
    · exact hanchor
    · have := heights_le_iff.mp (Nat.le_trans (heights_le_ofItems items) h) a ha
      exact Nat.le_trans this (Nat.le_max_left ..)
  · rw [List.mem_singleton.mp ha]
    exact hanchor

/-- Anchors around every alternative nest no deeper than anchors around the whole. -/
theorem height_bounded (anchor : Anchor) {alternatives : List (List Ast)}
    (hne : alternatives ≠ []) :
    (ofBranches (alternatives.map (Draft.bounds (anchorAst anchor)))).height ≤
      (ofBranches (alternatives.map ofItems)).height + 2 := by
  match alternatives with
  | [items] =>
    have := height_bounds anchor (Nat.le_refl (ofItems items).height)
    show (Draft.bounds (anchorAst anchor) items).height ≤ (ofItems items).height + 2
    omega
  | first :: second :: rest =>
    show heights _ + 1 ≤ heights ((first :: second :: rest).map ofItems) + 1 + 2
    refine Nat.succ_le_succ (heights_le_iff.mpr fun a ha => ?_)
    rw [← List.map_cons] at ha
    obtain ⟨items, hitems, rfl⟩ := List.mem_map.mp ha
    have hitems := heights_le_iff.mp (Nat.le_refl _) _ (List.mem_map_of_mem (f := ofItems) hitems)
    have := height_bounds anchor hitems
    omega

end Ast
end Regex

/-! ### The two patterns -/

namespace Pattern

/-- The pattern in a group of its own between two anchors. The end of the group stands on a line of
its own in a verbose pattern. -/
def framed (anchor : Anchor) (verbose : Bool) (pattern : List Char) : List Char :=
  anchor.text ++ ['(', '?', ':'] ++ pattern ++ Regex.closing verbose ++ anchor.text

open Regex (Ast Draft anchorAst)

/-- Anchors around the whole of a pattern and around each of its alternatives. -/
theorem exists_alternatives {verbose : Bool} {cs : List Char} {a f : Ast} {anchor : Anchor}
    (hread : Ast.read verbose (.ofList cs) = some a)
    (hframed : Ast.read verbose (.ofList (framed anchor verbose cs)) = some f)
    (ha : (Draft.start verbose).agrees verbose cs) :
    ∃ alternatives : List (List Ast), alternatives ≠ [] ∧
      f = .concat [anchorAst anchor, .group (.plain []) (.ofBranches (alternatives.map .ofItems)),
        anchorAst anchor] ∧
      Ast.read verbose (.ofList (bounded anchor verbose cs)) =
        some (.ofBranches (alternatives.map (Draft.bounds (anchorAst anchor)))) ∧
      (a.keepsUnicode → ∀ items ∈ alternatives, (Ast.ofItems items).unicodeAfter true) := by
  obtain ⟨-, e, o, hlexed, hopened, hcontent⟩ := Ast.read_eq_some hread
  rw [String.toList_ofList] at hlexed
  obtain ⟨hheight, z, hz, hzopened, hzcontent⟩ := Ast.addText_of_read hframed
  have ho : verbose = false → o = false := by
    rintro rfl
    exact hlexed.closed_of_agrees ha
  obtain ⟨done, y, hdone, hy, hyopened, hycontent⟩ :=
    hlexed.addText_bounded hopened ho ha anchor
  unfold framed at hz
  simp only [List.append_assoc, Regex.closing_eq] at hz
  obtain ⟨-, hf⟩ := hlexed.addText_framed hopened ho anchor hz
  have hbranches := Draft.branches_of_finished hdone hopened
  have hwhole := Draft.content_of_branches ((Draft.branches_endLine verbose e).trans hbranches)
  have hplain : e.Plain := (Draft.outermost_lexed hlexed (d := .start verbose)
    (fun a ha => absurd ha (List.not_mem_nil)) 0).1
  rw [hwhole, hzcontent] at hf
  refine ⟨(e.endLine verbose).alternatives done, by simp [Draft.alternatives], hf, ?_, ?_⟩
  · have hnested := Ast.height_bounded anchor
      (show (e.endLine verbose).alternatives done ≠ [] by simp [Draft.alternatives])
    rw [← hycontent]
    refine Ast.read_of_addText hy hyopened ?_
    rw [hf] at hheight
    rw [hycontent]
    refine Nat.le_trans hnested (Nat.le_trans ?_ hheight)
    exact Nat.succ_le_succ (Nat.le_trans (Nat.le_max_left ..) (Nat.le_max_right ..))
  · rw [← hcontent]
    exact fun hkeeps items => Draft.unicodeAfter_alternatives hplain hopened hbranches hkeeps

end Pattern
end Gazetteer
