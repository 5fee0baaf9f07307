import Gazetteer.Proofs.Outline.Pieces
import Gazetteer.Proofs.Outline.Separators
import Gazetteer.Proofs.Reading.Within

/-! Reading a pattern with anchors at its separators.

Where a scan and the reader agree, the text with anchors is read like the text without: the same
tokens in the same groups, and outside all groups the anchors as items of their own
(`Draft.Lexed.addText_anchored`). -/
namespace Gazetteer

open Pattern (Anchor Outline anchorSeparators)
open Pattern.Outline (Passes Inert isSeparator isOrdinary)

namespace Regex

/-! ### The text with anchors -/

/-- The text with anchors around its separators, for a scan at level `k`. -/
def anchoredText (anchor : Anchor) (scanned : Bool) (k : Nat) (cs : List Char) : List Char :=
  anchorSeparators anchor ((Outline.level k).marks scanned cs)

theorem anchoredText_bar (anchor : Anchor) (scanned : Bool) (cs : List Char) :
    anchoredText anchor scanned 0 ('|' :: cs) =
      anchor.text ++ '|' :: anchor.text ++ anchoredText anchor scanned 0 cs := rfl

theorem anchoredText_of_passes {scanned : Bool} {k k' : Nat} {w : List Char}
    (h : Passes scanned (Outline.level k) w (Outline.level k')) (anchor : Anchor)
    (cs : List Char) :
    anchoredText anchor scanned k (w ++ cs) = w ++ anchoredText anchor scanned k' cs :=
  h.anchorSeparators anchor cs

/-- What an anchor is read as. -/
def anchorAst : Anchor → Ast
  | .unicode => .assertion .wordBoundary
  | .ascii => .group (.plain [(.unicode, false)]) (.assertion .wordBoundary)

theorem Token.lexeme_wordBoundary {verbose : Bool} {tl : List Char}
    (h : Escape.endsBoundary verbose tl = true) :
    Lexeme verbose tl ['\\', 'b'] (.atom (.assertion .wordBoundary)) := by
  refine .escape ⟨⟨'b', [], [], rfl, .nil, by simp⟩, fun tail htail => ?_⟩ fun _ => h
  exact ⟨tail, Escape.readBoundary_of_endsBoundary (htail rfl), .inl rfl⟩

theorem Token.lexeme_asciiGroup (verbose : Bool) (tl : List Char) :
    Lexeme verbose tl ['(', '?', '-', 'u', ':'] (.openGroup (.plain [(.unicode, false)])) := by
  refine .group (b := []) (Blank.nil _)
    ⟨rfl, fun _ => rfl, fun _ v k => ?_, fun _ => by decide, by decide⟩
  exact ((Inert.of_forall (List.all_eq_true.mp (by decide))) (k + 1)).toPasses

namespace Draft

/-- The draft with an item more. -/
def push (d : Draft) (a : Ast) : Draft := { d with level := d.level.push a }

theorem isSolid_of_meta (verbose : Bool) {c : Char} (h : c ∈ ['\\', '(', ')', '|']) :
    isSolid verbose c := by
  simp only [List.mem_cons, List.not_mem_nil, or_false] at h
  rcases h with rfl | rfl | rfl | rfl <;> cases verbose <;> decide

theorem addText_anchor (anchor : Anchor) (d : Draft) {tail : List Char}
    (h : Escape.endsBoundary d.verbose tail = true) :
    d.addText (anchor.text ++ tail) = (d.push (anchorAst anchor)).addText tail := by
  have hslash : ∀ v, isSolid v '\\' := fun v => isSolid_of_meta v (by simp)
  cases anchor with
  | unicode =>
    exact addText_token (b := []) (w := ['\\', 'b']) (Blank.nil _)
      (Token.lexeme_wordBoundary h) (hslash _) rfl
  | ascii =>
    have hopen := addText_token (d := d) (b := []) (Blank.nil _)
      (Token.lexeme_asciiGroup d.verbose ('\\' :: 'b' :: ')' :: tail))
      (isSolid_of_meta _ (by simp)) rfl
    have hinner : ∀ e : Draft, e.addText (['\\', 'b'] ++ (')' :: tail)) =
        (e.push (.assertion .wordBoundary)).addText (')' :: tail) := fun e =>
      addText_token (b := []) (w := ['\\', 'b']) (Blank.nil _)
        (Token.lexeme_wordBoundary (Escape.endsBoundary_of_ne (by decide))) (hslash _) rfl
    refine hopen.trans ((hinner _).trans ?_)
    exact addText_token (b := []) (w := [')']) (Blank.nil _) .close
      (isSolid_of_meta _ (by simp)) rfl

/-! ### The draft with anchors -/

/-- Changes what was read around the outermost of the open groups. -/
def mapLast (f : Level → Level) : List OpenGroup → List OpenGroup
  | [] => []
  | [g] => [{ g with outer := f g.outer }]
  | g :: opened => g :: mapLast f opened

/-- Changes what was read outside all groups. -/
def mapOutermost (f : Level → Level) (d : Draft) : Draft :=
  { d with
    level := if d.opened.isEmpty then f d.level else d.level
    opened := mapLast f d.opened }

/-- A change that only adds something before everything else. -/
structure Before (f : Level → Level) : Prop where
  push : ∀ l a, f (l.push a) = (f l).push a
  repeatLast : ∀ l l' least most greedy, l.repeatLast least most greedy = some l' →
    (f l).repeatLast least most greedy = some (f l')

/-- Tokens do the same whatever was read before outside all groups; but a bar there ends an
alternative. -/
theorem add_mapOutermost {f : Level → Level} (hf : Before f) {d d' : Draft} {t : Token}
    (ht : (t.isBar && d.opened.isEmpty) = false) (h : d.add t = some d') :
    (d.mapOutermost f).add t = some (d'.mapOutermost f) := by
  obtain ⟨level, opened, verbose, captures, names⟩ := d
  have hlevel : ∀ l v, ({ level := l, opened, verbose := v, captures, names } : Draft).mapOutermost f =
      ⟨if opened.isEmpty then f l else l, mapLast f opened, v, captures, names⟩ := fun _ _ => rfl
  have hopen : ∀ kind v k ns, (⟨.empty, ⟨kind, level, verbose⟩ :: opened, v, k, ns⟩ :
      Draft).mapOutermost f = ⟨.empty, ⟨kind, if opened.isEmpty then f level else level, verbose⟩ ::
        mapLast f opened, v, k, ns⟩ := by
    intro kind v k ns
    cases opened <;> rfl
  rw [hlevel]
  unfold add at h
  split at h
  · unfold openGroup at h
    split at h
    · obtain rfl := Option.some.inj h
      rw [hopen]
      rfl
    · split at h
      · exact absurd h (by simp)
      · rename_i hname
        obtain rfl := Option.some.inj h
        rw [hopen]
        exact if_neg hname
    · obtain rfl := Option.some.inj h
      rw [hopen]
      rfl
  · obtain rfl := Option.some.inj h
    rw [hlevel]
    cases opened with
    | nil => exact congrArg (fun l => some (⟨l, [], _, captures, names⟩ : Draft)) (hf.push ..).symm
    | cons g opened => rfl
  · cases opened with
    | nil => exact absurd h (by simp)
    | cons g opened =>
      obtain rfl := Option.some.inj h
      cases opened with
      | nil =>
        show some (⟨(f g.outer).push (.group g.kind level.content), [], _, _, _⟩ : Draft) = _
        rw [← hf.push]
        rfl
      | cons g' opened => rfl
  · obtain rfl := Option.some.inj h
    rw [hlevel]
    cases opened with
    | nil => exact Bool.noConfusion ht
    | cons g opened => rfl
  · rename_i least most greedy
    obtain ⟨l, hl, rfl⟩ := Option.map_eq_some_iff.1 h
    rw [hlevel]
    cases opened with
    | nil =>
      show ((f level).repeatLast least most greedy).map _ = _
      rw [hf.repeatLast _ _ _ _ _ hl]
      rfl
    | cons g opened =>
      show (level.repeatLast least most greedy).map _ = _
      rw [show level.repeatLast least most greedy = some l from hl]
      rfl
  · obtain rfl := Option.some.inj h
    rw [hlevel]
    cases opened with
    | nil => exact congrArg (fun l => some (⟨l, [], _, captures, names⟩ : Draft)) (hf.push ..).symm
    | cons g opened => rfl

/-! ### Reading with anchors -/

/-- The items of an alternative between two anchors. -/
def bounds (a : Ast) (items : List Ast) : Ast := .ofItems (a :: items ++ [a])

/-- The level as it is read with an anchor before it, with other alternatives finished. -/
def anchorLevel (a : Ast) (done : List Ast) (l : Level) : Level := ⟨done, l.items ++ [a]⟩

theorem before_anchorLevel (a : Ast) (done : List Ast) : Before (anchorLevel a done) := by
  refine ⟨fun _ _ => rfl, fun l l' least most greedy h => ?_⟩
  unfold Level.repeatLast at h ⊢
  obtain ⟨branches, items⟩ := l
  cases items with
  | nil => exact absurd h (by simp)
  | cons b items =>
    simp only at h
    split at h
    · rename_i hrep
      obtain rfl := Option.some.inj h
      exact if_pos hrep
    · exact absurd h (by simp)

/-- The draft as it is read with anchors, where `done` are the alternatives finished. -/
def anchored (a : Ast) (done : List Ast) (d : Draft) : Draft := d.mapOutermost (anchorLevel a done)

/-- The items of the alternatives that are finished outside all groups, last first. -/
def Finished (d : Draft) (done : List (List Ast)) : Prop :=
  d.outermost.branches = done.map Ast.ofItems

variable {scanned o : Bool} {d d' e : Draft} {b w tl cs tail : List Char} {t : Token}

theorem anchor_cons (anchor : Anchor) : ∃ c x, anchor.text = c :: x ∧ c ∈ ['\\', '(', ')', '|'] := by
  cases anchor <;> exact ⟨_, _, rfl, by decide⟩

/-- Where a lexeme is read, the text with anchors goes on alike, but for anchors around a bar. -/
theorem anchoredText_token (anchor : Anchor) (hb : Blank d.verbose b)
    (hw : Token.Lexeme d.verbose tl w t) (hsolid : w.head?.all (isSolid d.verbose))
    (hadd : d.add t = some d') (ha : d.agrees scanned (b ++ (w ++ tl))) :
    anchoredText anchor scanned d.opened.length (b ++ (w ++ tl)) =
      b ++ ((if t.isBar && d.opened.isEmpty then anchor.text ++ '|' :: anchor.text else w) ++
        anchoredText anchor scanned d'.opened.length tl) := by
  obtain ⟨-, hinert, hpass, -⟩ := agrees_token hb hw hsolid hadd ha
  rw [anchoredText_of_passes (hinert _).toPasses, length_opened hadd]
  by_cases hbar : t = .bar
  · subst hbar
    obtain rfl := hw.eq_bar
    cases hopened : d.opened with
    | nil =>
      show b ++ anchoredText anchor scanned 0 ('|' :: tl) =
        b ++ (anchor.text ++ '|' :: anchor.text ++ anchoredText anchor scanned 0 tl)
      rw [anchoredText_bar, List.append_assoc]
    | cons g opened => rfl
  · have hnot : t.isBar = false := by
      cases t with
      | bar => exact absurd rfl hbar
      | _ => rfl
    rw [anchoredText_of_passes (hpass hbar _), hnot]
    rfl

theorem anchoredText_trailing (anchor : Anchor) (hb : Trailing d.verbose b o)
    (ha : d.agrees scanned b) : anchoredText anchor scanned d.opened.length b = b := by
  have hpass := (agrees_blank hb ha d.opened.length).toPasses.anchorSeparators anchor []
  rw [List.append_nil] at hpass
  exact hpass.trans (List.append_nil b)

/-- The text with anchors continues no token that the text without them does not continue. -/
theorem Lexed.alike_anchored (h : Lexed d cs e o) (ha : d.agrees scanned cs) (anchor : Anchor)
    (hn : Neutral e.verbose o tail) :
    Token.Alike d.verbose cs (anchoredText anchor scanned d.opened.length cs ++ tail) := by
  cases h with
  | blank hb =>
    rw [anchoredText_trailing anchor hb ha]
    exact hb.alike hn
  | token hb hw hsolid hadd _ =>
    rw [anchoredText_token anchor hb hw hsolid hadd ha, List.append_assoc, List.append_assoc]
    obtain ⟨c, x, rfl⟩ := hw.cons
    have hc : isSolid d.verbose c := by simpa using hsolid
    split
    · obtain ⟨c', x', htext, hmeta⟩ := anchor_cons anchor
      rw [htext]
      refine alike_of_heads hb hc (isSolid_of_meta _ hmeta) ?_ (Escape.endsBoundary_of_ne ?_)
      · rintro rfl
        exact absurd hmeta (by decide)
      · rintro rfl
        exact absurd hmeta (by decide)
    · exact alike_of_heads hb hc hc id (hw.edge _)

/-- A bar outside all groups is read with an anchor before it and one behind it. -/
theorem addText_anchored_bar (anchor : Anchor) {done : List (List Ast)} (hopened : d.opened = [])
    (htail : Escape.endsBoundary d.verbose tail = true) :
    (d.anchored (anchorAst anchor) (done.map (bounds (anchorAst anchor)))).addText
        (anchor.text ++ '|' :: anchor.text ++ tail) =
      (anchored (anchorAst anchor)
        ((d.level.items.reverse :: done).map (bounds (anchorAst anchor)))
        { d with level := d.level.bar }).addText tail := by
  obtain ⟨level, opened, verbose, captures, names⟩ := d
  obtain rfl : opened = [] := hopened
  have hbar : ∀ e : Draft, ∀ x, e.addText ('|' :: x) =
      addText { e with level := e.level.bar } x := fun e x =>
    addText_token (b := []) (w := ['|']) (Blank.nil _) .bar (isSolid_of_meta _ (by simp)) rfl
  rw [List.append_assoc, List.cons_append,
    addText_anchor anchor _ (Escape.endsBoundary_of_ne (by decide)), hbar]
  refine (addText_anchor anchor _ ?_).trans (congrArg (addText · tail) ?_)
  · exact htail
  show (⟨⟨Ast.ofItems (anchorAst anchor :: (level.items ++ [anchorAst anchor])).reverse :: _,
    [anchorAst anchor]⟩, [], verbose, captures, names⟩ : Draft) = _
  rw [List.reverse_cons, List.reverse_append]
  rfl

/-- The text with anchors is read as the text is read without them, with anchors around every
alternative that is finished. -/
theorem Lexed.addText_anchored (h : Lexed d cs e o) (ha : d.agrees scanned cs) (anchor : Anchor)
    (hn : Neutral e.verbose o tail) {done : List (List Ast)} (hd : d.Finished done) :
    ∃ done', e.Finished done' ∧
      (d.anchored (anchorAst anchor) (done.map (bounds (anchorAst anchor)))).addText
          (anchoredText anchor scanned d.opened.length cs ++ tail) =
        (e.anchored (anchorAst anchor) (done'.map (bounds (anchorAst anchor)))).addText
          (if o then dropBlanks true tail else tail) := by
  induction h generalizing done with
  | blank hb =>
    rw [anchoredText_trailing anchor hb ha]
    exact ⟨done, hd, addText_congr (hb.skip tail)⟩
  | @token d d' e b w tl t o hb hw hsolid hadd hlexed ih =>
    obtain ⟨-, -, -, hrest⟩ := agrees_token hb hw hsolid hadd ha
    have hnext := hlexed.alike_anchored hrest anchor hn
    have hbranches := (outermost_add hadd hw.isSimple).2
    rw [anchoredText_token anchor hb hw hsolid hadd ha, List.append_assoc, List.append_assoc]
    cases hbar : t.isBar && d.opened.isEmpty with
    | true =>
      obtain ⟨ht, hopened⟩ := Bool.and_eq_true_iff.mp hbar
      obtain rfl : t = .bar := by
        cases t with
        | bar => rfl
        | _ => exact Bool.noConfusion ht
      have hopened : d.opened = [] := List.isEmpty_iff.mp hopened
      obtain rfl := Option.some.inj hadd
      rw [hbar, if_pos rfl, hd, outermost_of_nil hopened] at hbranches
      obtain ⟨done', he, htext⟩ := ih hrest hn
        (show Finished _ (d.level.items.reverse :: done) from hbranches)
      refine ⟨done', he, ?_⟩
      rw [if_pos rfl, ← htext, ← addText_anchored_bar anchor hopened hnext.edge]
      obtain ⟨c, x, hx, hmeta⟩ := anchor_cons anchor
      have hskip := hb.skip_cons (isSolid_of_meta _ hmeta)
      refine addText_congr (d := d.anchored _ _) ?_
      rw [hx]
      exact (hskip _).trans (skipBlanks_of_isSolid (isSolid_of_meta _ hmeta) _).symm
    | false =>
      rw [hbar, if_neg (by simp)] at hbranches
      obtain ⟨done', he, htext⟩ := ih hrest hn (hbranches.trans hd)
      refine ⟨done', he, ?_⟩
      have hw' : Token.Lexeme d.verbose (anchoredText anchor scanned d'.opened.length tl ++ tail)
          w t := hw.congr fun ht => by
        rw [← verbose_of_lasts ht hadd]
        exact hnext
      rw [if_neg (by simp), ← htext]
      exact addText_token (d := d.anchored _ _) hb hw' hsolid
        (add_mapOutermost (before_anchorLevel _ _) hbar hadd)

end Draft
end Regex
end Gazetteer
