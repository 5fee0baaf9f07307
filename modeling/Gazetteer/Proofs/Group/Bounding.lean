import Gazetteer.Proofs.Group.Contained

/-! Contained patterns with anchors.

What was read keeps its groups and its meaning when anchors are placed around its alternatives
(`Draft.Lexed.ended`, `Draft.Lexed.isPattern_of_bounded`). So the body that a contained pattern
becomes is read in its group as the pattern is alone (`Contained.outcome`, `Contained.bound`). -/
namespace Gazetteer.Regex

open Pattern (Anchor Outline bounded)
open Pattern.Outline (Passes)

/-! ### Texts with anchors -/

namespace Draft

variable {verbose o : Bool} {d e : Draft} {cs : List Char} {anchor : Anchor}

theorem frames_mapLast (f : Level → Level) (opened : List OpenGroup) :
    (mapLast f opened).map OpenGroup.verbose = opened.map OpenGroup.verbose := by
  induction opened with
  | nil => rfl
  | cons g opened ih =>
    cases opened with
    | nil => rfl
    | cons g' opened => exact congrArg (g.verbose :: ·) ih

theorem frames_endLine (verbose : Bool) (d : Draft) : (d.endLine verbose).frames = d.frames := by
  unfold endLine
  split <;> rfl

theorem items_endLine {x : Draft} (hv : x.verbose = d.verbose)
    (h : x.level.items = d.level.items) :
    (x.endLine verbose).level.items = (d.endLine verbose).level.items := by
  unfold endLine
  rw [hv]
  split
  · exact congrArg (_ :: ·) h
  · exact h

/-- The items of an alternative do not depend on the alternatives before it. -/
theorem items_anchored (e : Draft) (a : Ast) (done done' : List Ast) :
    (e.anchored a done).level.items = (e.anchored a done').level.items := by
  show (if e.opened.isEmpty then _ else _ : Level).items =
    (if e.opened.isEmpty then _ else _ : Level).items
  split <;> rfl

theorem verbose_endLine (verbose : Bool) (d : Draft) : (d.endLine verbose).verbose = d.verbose := by
  unfold endLine
  split <;> rfl

/-- An anchor before a text that was read behind it is read with it. -/
theorem Lexed.before_anchor (h : Lexed (d.push (anchorAst anchor)) cs e false) :
    Lexed d (anchor.text ++ cs) e false := by
  have hread : ∀ tail, Neutral e.verbose false tail →
      d.addText (anchor.text ++ cs ++ tail) = e.addText tail := fun tail hn => by
    rw [List.append_assoc, addText_anchor anchor d (h.alike hn).edge]
    exact h.addText_append hn
  have he := hread [] (.nil e.verbose false)
  have hdot := hread ['.'] (neutral_dot e.verbose)
  rw [List.append_nil, addText_nil] at he
  rw [addText_dot] at hdot
  exact .of_addText he hdot (items_push_ne rfl)

/-- A text with anchors at its separators, read up to its end. -/
theorem Lexed.anchored (h : Lexed (start verbose) cs e false)
    (ha : (start verbose).agrees verbose cs) (anchor : Anchor) :
    ∃ done, Lexed (start verbose) (anchor.text ++ anchoredText anchor verbose 0 cs)
      (e.anchored (anchorAst anchor) done) false := by
  have hstart : (start verbose).Finished [] := rfl
  obtain ⟨done, -, hread⟩ := h.addText_anchored ha anchor (.nil e.verbose false) hstart
  obtain ⟨done', -, hdot⟩ := h.addText_anchored ha anchor (neutral_dot e.verbose) hstart
  rw [List.append_nil] at hread
  exact ⟨_, .before_anchor (.of_addText (hread.trans (addText_nil _))
    (hdot.trans (addText_dot _)) (items_push_ne (items_anchored e _ _ _)))⟩

/-- The rest of a bounded text behind its first anchor is read as the text is, with the same groups
left open. -/
theorem Lexed.ended (h : Lexed (start verbose) cs e o) (ho : verbose = false → o = false)
    (ha : (start verbose).agrees verbose cs) (anchor : Anchor) :
    ∃ z, z.frames = e.frames ∧ Lexed ((start verbose).push (anchorAst anchor))
      (anchoredText anchor verbose 0 cs ++ (lineEnd verbose ++ anchor.text)) z false := by
  obtain ⟨c, x, htext, hmeta⟩ := anchor_cons anchor
  -- Which text comes behind decides only about the alternatives that are done, so the draft is the
  -- same at the end of the text and before an item, but for these.
  let z : List Ast → Draft := fun done =>
    ((e.anchored (anchorAst anchor) done).endLine verbose).push (anchorAst anchor)
  have hread : ∀ tail, Escape.endsBoundary e.verbose tail = true → ∃ done,
      ((start verbose).push (anchorAst anchor)).addText (anchoredText anchor verbose 0 cs ++
        (lineEnd verbose ++ anchor.text) ++ tail) = (z done).addText tail := by
    intro tail htail
    obtain ⟨hn, hline⟩ := h.before_lineEnd ho hmeta (x ++ tail)
    rw [← List.cons_append, ← htext] at hn hline
    obtain ⟨done, -, hanchored⟩ := h.addText_anchored ha anchor hn
      (show (start verbose).Finished [] from rfl)
    refine ⟨done.map (bounds (anchorAst anchor)), ?_⟩
    rw [List.append_assoc, List.append_assoc]
    refine hanchored.trans ((hline (e.anchored _ _) rfl).trans (addText_anchor anchor _ ?_))
    rw [verbose_endLine]
    exact htail
  obtain ⟨done, hend⟩ := hread [] rfl
  obtain ⟨done', hdot⟩ := hread ['.'] rfl
  rw [List.append_nil, addText_nil] at hend
  rw [addText_dot] at hdot
  have hitems : (z done').level.items = (z done).level.items :=
    congrArg (anchorAst anchor :: ·) (items_endLine rfl (items_anchored e _ _ _))
  refine ⟨z done, ?_, .of_addText hend hdot (items_push_ne hitems)⟩
  exact (frames_endLine verbose _).trans (frames_mapLast _ e.opened)

/-- The end of a line is no item, or one that leaves the flags alone. -/
theorem exists_items_endLine (verbose : Bool) (e : Draft) :
    ∃ more : List Ast, (∀ m, more.foldlM Ast.modeAfter? m = some m) ∧
      (e.endLine verbose).level.items.reverse = e.level.items.reverse ++ more := by
  unfold endLine
  split
  · refine ⟨[.literal '\n' false], fun m => ?_, List.reverse_cons⟩
    show ((Ast.literal '\n' false).modeAfter? m).bind some = some m
    unfold Ast.modeAfter? Node.ofAst Node.ofLiteral
    rfl
  · exact ⟨[], fun _ => rfl, (List.append_nil _).symm⟩

theorem forall₂_branches {f g : List Ast → Ast} (done : List (List Ast))
    (items items' : List Ast) (hdone : ∀ items, (f items).Below (g items))
    (hlast : (f items).Below (g items')) :
    List.Forall₂ Ast.Below ((items :: done).reverse.map f) ((items' :: done).reverse.map g) := by
  rw [List.reverse_cons, List.reverse_cons, List.map_append, List.map_append]
  refine List.rel_append ?_ (.cons hlast .nil)
  exact List.forall₂_map_left_iff.mpr (List.forall₂_map_right_iff.mpr
    (List.forall₂_same.mpr fun items _ => hdone items))

/-- What was read is a pattern if it is one with anchors around its alternatives. -/
theorem Lexed.isPattern_of_bounded {m : Mode} {z : Draft} (h : Lexed (start verbose) cs e o)
    (ho : verbose = false → o = false) (ha : (start verbose).agrees verbose cs)
    (hopened : e.opened = [])
    (hz : (start verbose).addText (bounded anchor verbose cs) = some z) (hp : z.IsPattern m) :
    e.IsPattern m := by
  obtain ⟨done, z', hdone, hz', -, hcontent⟩ := h.addText_bounded hopened ho ha anchor
  obtain rfl := Option.some.inj (hz'.symm.trans hz)
  refine hp.of_below hopened ?_
  obtain ⟨more, hmore, hitems⟩ := exists_items_endLine verbose e
  have hnone : ∀ m, ([] : List Ast).foldlM Ast.modeAfter? m = some m := fun _ => rfl
  rw [hcontent, content_of_branches (branches_of_finished hdone hopened)]
  refine .ofBranches (forall₂_branches done _ _ (fun items => ?_) ?_)
  · have hbounds := Ast.Below.bounds anchor items hnone
    rwa [List.append_nil] at hbounds
  · rw [hitems]
    exact .bounds anchor _ hmore

/-- What was read is a pattern if it is one with the end of a line behind it. -/
theorem IsPattern.of_endLine {m : Mode} (h : (e.endLine verbose).IsPattern m) : e.IsPattern m := by
  refine h.of_below ((opened_endLine verbose e).symm.trans h.opened) ?_
  obtain ⟨more, hmore, hitems⟩ := exists_items_endLine verbose e
  have hcontent : ∀ l : Level, l.content =
      .ofBranches (l.branches.reverse ++ [.ofItems l.items.reverse]) := fun l => by
    unfold Level.content
    rw [List.reverse_cons]
    rfl
  rw [hcontent, hcontent, branches_endLine, hitems]
  refine .ofBranches (List.rel_append (List.forall₂_same.mpr fun a _ => .refl a) (.cons ?_ .nil))
  exact .append _ hmore

end Draft

/-! ### What becomes of a body -/

/-- How the body of a term is read in the group around it. No bracket stands behind it unless
`bracket` is set. -/
inductive Outcome (verbose : Bool) (side : Side) (bracket : Bool) : List Char → Prop
  /-- It is read to its end, and groups that it leaves open end as verbose as it began. -/
  | ends {cs : List Char} {e : Draft} {o : Bool} (h : Draft.Lexed (.start verbose) cs e o)
    (ho : verbose = false → o = false)
    (hopened : ∀ v ∈ e.frames.head?, side = .opening ∧ v = verbose) :
    Outcome verbose side bracket cs
  /-- It is refused. -/
  | refused {cs : List Char} (h : ∀ d : Draft, d.verbose = verbose → d.level = .empty →
    ∀ tail, (bracket = false → ']' ∉ tail) → d.addText (cs ++ (closing verbose ++ tail)) = none) :
    Outcome verbose side bracket cs
  /-- It takes what was to close the group around it and leaves that group open. -/
  | dangles {cs : List Char} {e : Draft} (hside : side = .opening)
    (h : Draft.Lexed (.start verbose) (cs ++ closing verbose) e false) (hv : e.verbose = verbose) :
    Outcome verbose side bracket cs
  /-- It closes the group around it and opens none from there on. -/
  | stray {pre post : List Char} {d e e' : Draft} {o : Bool} (hside : side = .closing)
    (hpre : Draft.Lexed (.start verbose) pre e false) (hopened : e.opened = [])
    (hv : d.verbose = verbose) (hd : d.opened = []) (hpost : Draft.Lexed d post e' o)
    (ho : verbose = false → o = false) (hopened' : e'.opened = []) :
    Outcome verbose side bracket (pre ++ ')' :: post)

theorem frames_eq_nil_iff {d : Draft} : d.frames = [] ↔ d.opened = [] := List.map_eq_nil_iff

theorem not_mem_closing (verbose : Bool) : ']' ∉ closing verbose := by
  cases verbose <;> decide

/-- What stands behind a text that was read is bounded from there. -/
theorem Draft.Lexed.bounded_append {verbose : Bool} {pre : List Char} {e : Draft}
    (h : Draft.Lexed (.start verbose) pre e false)
    (ha : (Draft.start verbose).agrees verbose pre) (anchor : Anchor) (cs : List Char) :
    bounded anchor verbose (pre ++ cs) = anchor.text ++ anchoredText anchor verbose 0 pre ++
      (anchoredText anchor verbose e.opened.length cs ++ (lineEnd verbose ++ anchor.text)) := by
  have hafter : Outline.start.after verbose pre = Outline.level e.opened.length := h.after ha
  have hmarks := Outline.marks_append verbose .start pre cs
  rw [hafter] at hmarks
  unfold bounded
  rw [hmarks, Pattern.anchorSeparators, List.flatMap_append]
  simp only [List.append_assoc]
  rfl

/-- A text up to a refused token is refused with anchors as well. -/
theorem Draft.Lexed.addText_bounded_eq_none {verbose : Bool} {pre cs tail : List Char} {d e : Draft}
    {anchor : Anchor} (h : Draft.Lexed (.start verbose) pre e false)
    (ha : (Draft.start verbose).agrees verbose pre) {rest : List Char}
    (hrest : anchoredText anchor verbose e.opened.length cs ++ (lineEnd verbose ++ anchor.text) ++
      tail = rest)
    (hw : e.Refuses true rest) (hn : Draft.Neutral e.verbose false rest) (hv : d.verbose = verbose)
    (hd : d.level = .empty) : d.addText (bounded anchor verbose (pre ++ cs) ++ tail) = none := by
  obtain ⟨done, hanchored⟩ := h.anchored ha anchor
  rw [h.bounded_append ha, List.append_assoc, hrest]
  exact hanchored.addText_breaks (hw.anchored _ done) (fun _ => hn) hv hd

theorem Copied.anchoredText_append {verbose ascii : Bool} {k : Nat} {w : List Char}
    (h : Copied verbose ascii true k w) (anchor : Anchor) (rest : List Char) :
    anchoredText anchor verbose k (w ++ rest) = w ++
      Pattern.anchorSeparators anchor (((Outline.level k).after verbose w).marks verbose rest) :=
  Passes.anchorSeparators ⟨rfl, h.bounds rfl⟩ anchor rest

namespace Contained

variable {o : Options} {side : Side} {bracket : Bool} {cs : List Char}

theorem outcome {verbose : Bool} (h : Contained verbose false none side bracket cs) :
    Outcome verbose side bracket cs := by
  cases h with
  | ends h ho hopened _ => exact .ends h ho hopened
  | breaks h hw hn _ _ _ rest =>
    refine .refused fun d hv hd tail _ => ?_
    rw [List.append_assoc, List.append_assoc]
    exact h.addText_breaks (hw _) (fun hne => hn (.inr hne) _) hv hd
  | unfinished h _ hbehind hn _ _ =>
    refine .refused fun d hv hd tail ht => ?_
    rw [List.append_assoc]
    exact h.addText_breaks (hbehind tail ht) (fun hne => hn (.inr hne) _) hv hd
  | @dangles pre e hside hplain _ h hv _ =>
    subst hplain
    have hread : Draft.Lexed (.start false) (pre ++ ['\\'] ++ closing false)
        (e.push (.literal ')' false)) false := by
      rw [List.append_assoc]
      exact h.dangling hv
    exact .dangles hside hread hv
  | stray hside hpre hopened hpost ho hopened' _ _ =>
    exact .stray hside hpre hopened rfl rfl hpost ho hopened'

/-- A contained pattern is read with anchors as it is read without, and it is accepted then only if
it was before. -/
theorem bound {anchor : Anchor} (h : Contained o.verbose false (some anchor) side bracket cs) :
    Outcome o.verbose side bracket (bounded anchor o.verbose cs) ∧
      ((ofPattern? o (.ofList (bounded anchor o.verbose cs))).isSome →
        (ofPattern? o (.ofList cs)).isSome) := by
  cases h with
  | @ends _ e o' h ho hopened hs =>
    have ha : (Draft.start o.verbose).agrees o.verbose cs := hs.bounds rfl
    obtain ⟨z, hframes, hended⟩ := h.ended ho ha anchor
    have hbounded : Draft.Lexed (.start o.verbose) (bounded anchor o.verbose cs) z false := by
      have hlexed := hended.before_anchor
      unfold bounded
      rw [List.append_assoc, List.append_assoc]
      exact hlexed
    rw [← hframes] at hopened
    refine ⟨.ends hbounded (fun _ => rfl) hopened, fun haccepted => ?_⟩
    obtain ⟨y, hy, hpattern⟩ := isSome_ofPattern?_iff.mp haccepted
    obtain rfl := Option.some.inj (hbounded.addText.symm.trans hy)
    have hclosed : e.opened = [] :=
      frames_eq_nil_iff.mp (hframes.symm.trans (frames_eq_nil_iff.mpr hpattern.opened))
    exact isSome_ofPattern?_iff.mpr
      ⟨e, h.addText, h.isPattern_of_bounded ho ha hclosed hy hpattern⟩
  | @breaks pre w e h hw hn hs hc hescaped rest =>
    have hrefused : ∀ d : Draft, d.verbose = o.verbose → d.level = .empty → ∀ tail,
        d.addText (bounded anchor o.verbose (pre ++ (w ++ rest)) ++ tail) = none := by
      intro d hv hd tail
      have htext := congrArg (· ++ (lineEnd o.verbose ++ anchor.text) ++ tail)
        (hc.anchoredText_append anchor rest)
      simp only [List.append_assoc w] at htext
      exact h.addText_bounded_eq_none (hs.bounds rfl) htext (hw _) (hn (.inl rfl) _) hv hd
    refine ⟨.refused fun d hv hd tail _ => hrefused d hv hd _, fun haccepted => ?_⟩
    have hnone := hrefused (.start o.verbose) rfl rfl []
    rw [List.append_nil] at hnone
    exact absurd haccepted (isSome_ofPattern?_of_none hnone)
  | @unfinished pre w e h hw hbehind hn hs hc =>
    have hrefused : ∀ d : Draft, d.verbose = o.verbose → d.level = .empty → ∀ tail,
        (bracket = false → ']' ∉ tail) →
        d.addText (bounded anchor o.verbose (pre ++ w) ++ tail) = none := by
      intro d hv hd tail ht
      have hcopied : anchoredText anchor o.verbose e.opened.length w = w := by
        simpa [Pattern.anchorSeparators] using hc.anchoredText_append anchor []
      refine h.addText_bounded_eq_none (hs.bounds rfl) ?_ (hbehind tail ht) (hn (.inl rfl) _) hv hd
      rw [hcopied, List.append_assoc]
      rfl
    -- What closes the group around it holds no bracket.
    refine ⟨.refused fun d hv hd tail ht => hrefused d hv hd _ fun hb => ?_, fun haccepted => ?_⟩
    · rw [List.mem_append, not_or]
      exact ⟨not_mem_closing _, ht hb⟩
    · have hnone := hrefused (.start o.verbose) rfl rfl [] (by simp)
      rw [List.append_nil] at hnone
      exact absurd haccepted (isSome_ofPattern?_of_none hnone)
  | dangles _ _ hanchor _ _ _ => exact absurd hanchor (by simp)
  | @stray pre post e e' o' hside hpre hopened hpost ho hopened' hs hs' =>
    have ha : (Draft.start o.verbose).agrees o.verbose pre := hs.bounds rfl
    obtain ⟨done, hanchored⟩ := hpre.anchored ha anchor
    obtain ⟨z, hframes, hended⟩ := hpost.ended ho (hs'.bounds rfl) anchor
    have htext : bounded anchor o.verbose (pre ++ ')' :: post) =
        anchor.text ++ anchoredText anchor o.verbose 0 pre ++
          ')' :: (anchoredText anchor o.verbose 0 post ++ (lineEnd o.verbose ++ anchor.text)) := by
      rw [hpre.bounded_append ha, hopened]
      rfl
    have hclosed : (e.anchored (anchorAst anchor) done).opened = [] := by
      rw [Draft.anchored_of_nil hopened]
      exact hopened
    have hclosed' : z.opened = [] :=
      frames_eq_nil_iff.mp (hframes.trans (frames_eq_nil_iff.mpr hopened'))
    rw [htext]
    exact ⟨.stray hside hanchored hclosed rfl rfl hended (fun _ => rfl) hclosed', fun haccepted =>
      absurd haccepted (isSome_ofPattern?_of_none (hanchored.addText_stray hclosed _))⟩

end Contained
end Gazetteer.Regex
