import Gazetteer.Proofs.Group.Bounding
import Gazetteer.Proofs.Group.Rows

/-! How deep the alternatives of a group lead.

An alternative whose body is read as it is known to be leaves no fewer groups open than it found, so
it closes no group around it for a neighbour. If as many groups are open behind all alternatives as
before them, then each body closes all groups of its own (`AllOutcome.depth_of_text`). -/
namespace Gazetteer

namespace Regex

namespace Draft

variable {verbose o : Bool} {d e z : Draft} {body tail : List Char}

/-! ### The end of a body -/

theorem addText_close (h : d.addText (')' :: tail) = some z) :
    ∃ y : Draft, d.frames = y.verbose :: y.frames ∧ y.addText tail = some z := by
  obtain ⟨level, opened, v, captures, names⟩ := d
  cases opened with
  | nil =>
    rw [addText_close_eq_none rfl] at h
    exact absurd h (by simp)
  | cons g opened =>
    refine ⟨_, rfl, (addText_token (b := []) (w := [')']) (Blank.nil _) .close (isSolid_close _)
      rfl).symm.trans h⟩

theorem frames_within (d e : Draft) : (d.within e).frames = e.frames ++ d.frames := by
  unfold frames within
  rw [List.map_append, List.map_map]
  rfl

/-- The end of a line behind a text that was read is skipped or an item. -/
theorem Lexed.addText_lineEnd (h : Lexed (start verbose) body e o)
    (ho : verbose = false → o = false) :
    (start verbose).addText (body ++ lineEnd verbose) = some (e.endLine verbose) := by
  cases verbose with
  | false =>
    show (start false).addText (body ++ []) = _
    rw [List.append_nil]
    exact h.addText
  | true =>
    have hn : Neutral e.verbose o ['\n'] := by
      refine ⟨by simp, ?_, by cases e.verbose <;> decide⟩
      cases o <;> cases e.verbose <;> decide
    have hread := h.addText_append hn
    refine hread.trans ?_
    unfold endLine
    cases hv : e.verbose with
    | false =>
      obtain rfl := h.closed_of_plain hv
      exact (addText_newline hv []).trans (addText_nil _)
    | true =>
      have hskip : e.addText (if o then dropBlanks true ['\n'] else ['\n']) = e.addText [] := by
        refine addText_congr ?_
        rw [hv]
        cases o <;> decide
      exact hskip.trans (addText_nil e)

/-- A body that closes all groups of its own is enclosed. -/
theorem Lexed.encloses (h : Lexed (start verbose) body e o) (ho : verbose = false → o = false)
    (hopened : e.opened = []) : encloses verbose (body ++ lineEnd verbose) := by
  have hopened' : (e.endLine verbose).opened = [] := (opened_endLine verbose e).trans hopened
  obtain ⟨hn, hline⟩ := h.before_lineEnd ho (c := ')') (by simp) []
  have hparen : (start verbose).addText (body ++ lineEnd verbose ++ [')']) = none := by
    rw [List.append_assoc]
    exact (h.addText_append hn).trans ((hline e rfl).trans (addText_close_eq_none hopened' []))
  unfold Regex.encloses
  rw [h.addText_lineEnd ho, hparen, Option.any_some, hopened']
  rfl

end Draft

/-! ### Alternatives -/

/-- The body is read to its end, without a comment that would take the parenthesis behind it, and
closes all groups of its own. -/
def ClosesAll (verbose : Bool) (body : List Char) : Prop :=
  ∃ e o, Draft.Lexed (.start verbose) body e o ∧ (verbose = false → o = false) ∧ e.opened = []

/-- The alternatives that bodies become with their symbols. -/
def alternativesText (verbose : Bool) (bodies : List (String × List Char)) : List Char :=
  List.intercalate ['|'] (bodies.map fun b =>
    ['(', '?', 'P', '<'] ++ b.1.toList ++ ['>'] ++ (b.2 ++ closing verbose))

theorem alternativesText_cons_cons (verbose : Bool) (b b' : String × List Char)
    (later : List (String × List Char)) :
    alternativesText verbose (b :: b' :: later) = ['(', '?', 'P', '<'] ++ b.1.toList ++ ['>'] ++
      (b.2 ++ (closing verbose ++ '|' :: alternativesText verbose (b' :: later))) := by
  unfold alternativesText
  rw [List.map_cons, List.map_cons, List.intercalate_cons_cons]
  simp only [List.append_assoc, List.cons_append, List.nil_append]

/-- It is known how each body is read in front of the ones behind it. -/
def AllOutcome (verbose : Bool) (side : Side) : List (String × List Char) → Prop
  | [] => True
  | b :: later =>
    Outcome verbose side (later.any (·.2.contains ']')) b.2 ∧ AllOutcome verbose side later

section

variable {verbose bracket o : Bool} {side : Side} {body tail : List Char} {d e z : Draft}
  {symbol : String} {bodies : List (String × List Char)}

/-- Behind the alternative of a body, the draft `d` goes on with `tail` to `z` and has `k` more
groups open; only a body that closes all of its own leaves none. -/
def Deepens (verbose : Bool) (side : Side) (body tail : List Char) (d z : Draft) : Prop :=
  ∃ (k : Nat) (y : Draft), (k = 0 → ClosesAll verbose body) ∧ y.verbose = verbose ∧
    (side = .closing → y.frames = []) ∧ y.frames.length = d.frames.length + k ∧
    y.addText tail = some z

theorem frames_opening (hv : d.verbose = verbose) :
    (d.opening symbol).frames = verbose :: d.frames :=
  congrArg (· :: d.frames) hv

theorem closing_append (verbose : Bool) (tail : List Char) :
    closing verbose ++ tail = lineEnd verbose ++ ')' :: tail := by
  rw [closing_eq, List.append_assoc]
  rfl

theorem Draft.Lexed.deepens (h : Draft.Lexed (.start verbose) body e o)
    (ho : verbose = false → o = false)
    (hopened : ∀ v ∈ e.frames.head?, side = .opening ∧ v = verbose) (hv : d.verbose = verbose)
    (hside : side = .closing → d.frames = [])
    (hz : ((d.opening symbol).within (.start verbose)).addText
      (body ++ (closing verbose ++ tail)) = some z) : Deepens verbose side body tail d z := by
  obtain ⟨hn, hline⟩ := h.before_lineEnd ho (c := ')') (by simp) tail
  rw [closing_append] at hz
  have hbody := h.addText_within hn hz
  rw [hline ((d.opening symbol).within e) rfl] at hbody
  obtain ⟨y, hy, hrest⟩ := Draft.addText_close hbody
  rw [Draft.frames_endLine, Draft.frames_within, frames_opening hv] at hy
  refine ⟨e.frames.length, y, fun hk => ?_, ?_⟩
  · exact ⟨e, o, h, ho, frames_eq_nil_iff.mp (List.eq_nil_of_length_eq_zero hk)⟩
  -- The parenthesis closes the group of the alternative, or the innermost group that the body left.
  cases he : e.frames with
  | nil =>
    rw [he] at hy
    obtain ⟨rfl, hframes⟩ := List.cons.inj hy
    exact ⟨rfl, fun hs => hframes.symm.trans (hside hs), congrArg List.length hframes.symm, hrest⟩
  | cons v vs =>
    rw [he] at hy hopened
    obtain ⟨rfl, hframes⟩ := List.cons.inj hy
    obtain ⟨rfl, hverbose⟩ := hopened _ rfl
    have hframes : vs ++ verbose :: d.frames = y.frames := hframes
    refine ⟨hverbose, fun hs => absurd hs (by simp), ?_, hrest⟩
    rw [← hframes, List.length_append, List.length_cons, List.length_cons]
    omega

theorem Draft.Lexed.deepens_of_closing (h : Draft.Lexed (.start verbose) (body ++ closing verbose) e
      false) (hside : side = .opening) (he : e.verbose = verbose) (hv : d.verbose = verbose)
    (hn : Draft.Neutral verbose false tail)
    (hz : ((d.opening symbol).within (.start verbose)).addText
      (body ++ (closing verbose ++ tail)) = some z) : Deepens verbose side body tail d z := by
  rw [← he] at hn
  rw [← List.append_assoc] at hz
  have hrest : ((d.opening symbol).within e).addText tail = some z := h.addText_within hn hz
  refine ⟨e.frames.length + 1, (d.opening symbol).within e, by simp, he, fun hs => ?_, ?_, hrest⟩
  · exact absurd (hside.symm.trans hs) (by simp)
  · rw [Draft.frames_within, frames_opening hv, List.length_append, List.length_cons]
    omega

/-- A body that closes the group around it leaves nothing to close behind it. -/
theorem Draft.Lexed.addText_none_of_stray {pre post : List Char} {d' e' : Draft}
    (hpre : Draft.Lexed (.start verbose) pre e false) (hopened : e.opened = [])
    (hv' : d'.verbose = verbose) (hd' : d'.opened = []) (hpost : Draft.Lexed d' post e' o)
    (ho : verbose = false → o = false) (hopened' : e'.opened = []) (hv : d.verbose = verbose)
    (hd : d.frames = []) : ((d.opening symbol).within (.start verbose)).addText
      (pre ++ ')' :: post ++ (closing verbose ++ tail)) ≠ some z := by
  intro hz
  rw [List.append_assoc, List.cons_append, closing_append] at hz
  have hbody := hpre.addText_within (e.closedBy_paren _).1 hz
  obtain ⟨y, hy, hrest⟩ := Draft.addText_close hbody
  rw [Draft.frames_within, frames_opening hv, frames_eq_nil_iff.mpr hopened, hd] at hy
  obtain ⟨hyv, hyf⟩ := List.cons.inj hy
  obtain ⟨hn, hline⟩ := hpost.before_lineEnd ho (c := ')') (by simp) tail
  -- Outside all groups the text behind is read as it was read from `d'`.
  obtain ⟨y', hy'v, hy'f, hend⟩ := hpost.addText_frames hn (hyv.symm.trans hv'.symm)
    (hyf.symm.trans (frames_eq_nil_iff.mpr hd').symm) hrest
  have hnone : (y'.endLine verbose).opened = [] := by
    rw [Draft.opened_endLine]
    exact frames_eq_nil_iff.mp (hy'f.trans (frames_eq_nil_iff.mpr hopened'))
  rw [hline y' hy'v, Draft.addText_close_eq_none hnone] at hend
  exact absurd hend (by simp)

/-- A term's alternative that is read leaves no fewer groups open than it found, and as many only if
its body closes all of its own. -/
theorem Outcome.deepens (h : Outcome verbose side bracket body)
    (hsymbol : ∀ c ∈ symbol.toList, c ≠ '>') (hv : d.verbose = verbose)
    (hside : side = .closing → d.frames = []) (htail : bracket = false → ']' ∉ tail)
    (hn : Draft.Neutral verbose false tail)
    (hz : d.addText (['(', '?', 'P', '<'] ++ symbol.toList ++ ['>'] ++
      (body ++ (closing verbose ++ tail))) = some z) : Deepens verbose side body tail d z := by
  have hz := Draft.addText_opening hsymbol hz
  have hstart : (d.opening symbol).within (.start verbose) = d.opening symbol := by
    rw [← hv]
    exact Draft.within_start rfl
  cases h with
  | refused h =>
    rw [h (d.opening symbol) hv rfl tail htail] at hz
    exact absurd hz (by simp)
  | ends h ho hopened =>
    rw [← hstart] at hz
    exact h.deepens ho hopened hv hside hz
  | dangles hs h he =>
    rw [← hstart] at hz
    exact h.deepens_of_closing hs he hv hn hz
  | stray hs hpre hopened hv' hd' hpost ho hopened' =>
    rw [← hstart] at hz
    exact absurd hz (hpre.addText_none_of_stray hopened hv' hd' hpost ho hopened' hv (hside hs))

theorem not_mem_intercalate {c : Char} {separator : List Char} {parts : List (List Char)}
    (hseparator : c ∉ separator) (h : ∀ part ∈ parts, c ∉ part) :
    c ∉ List.intercalate separator parts := by
  induction parts with
  | nil => simp
  | cons part parts ih =>
    rw [List.forall_mem_cons] at h
    cases parts with
    | nil => simpa using h.1
    | cons part' parts =>
      rw [List.intercalate_cons_cons, List.mem_append, List.mem_append, not_or, not_or]
      exact ⟨⟨h.1, hseparator⟩, ih h.2⟩

theorem not_mem_alternativesText (hsymbols : ∀ b ∈ bodies, ']' ∉ b.1.toList)
    (h : bodies.any (·.2.contains ']') = false) : ']' ∉ alternativesText verbose bodies := by
  have hbodies : ∀ b ∈ bodies, ']' ∉ b.2 := by simpa using h
  refine not_mem_intercalate (by decide) (List.forall_mem_map.mpr fun b hb => ?_)
  simp only [List.mem_append, not_or]
  exact ⟨⟨⟨by decide, hsymbols b hb⟩, by decide⟩, hbodies b hb, not_mem_closing verbose⟩

/-- The alternative of the first body stands before the end of the text or before a bar, and behind
it the draft goes on with the other alternatives. -/
theorem exists_tail_of_alternativesText {b : String × List Char}
    (hsymbols : ∀ b ∈ bodies, ']' ∉ b.1.toList)
    (hz : d.addText (alternativesText verbose (b :: bodies)) = some z) :
    ∃ tail, (bodies.any (·.2.contains ']') = false → ']' ∉ tail) ∧
      Draft.Neutral verbose false tail ∧
      d.addText (['(', '?', 'P', '<'] ++ b.1.toList ++ ['>'] ++
        (b.2 ++ (closing verbose ++ tail))) = some z ∧
      ∀ y : Draft, y.addText tail = some z → ∃ y' : Draft, y'.verbose = y.verbose ∧
        y'.frames = y.frames ∧ y'.addText (alternativesText verbose bodies) = some z := by
  cases bodies with
  | nil =>
    have hz : d.addText (['(', '?', 'P', '<'] ++ b.1.toList ++ ['>'] ++
        (b.2 ++ closing verbose)) = some z := by
      rw [← hz]
      unfold alternativesText
      rw [List.map_cons, List.map_nil, List.intercalate_singleton]
    refine ⟨[], by simp, .nil verbose false, ?_, fun y hy => ⟨y, rfl, rfl, hy⟩⟩
    rw [List.append_nil]
    exact hz
  | cons b' later =>
    rw [alternativesText_cons_cons] at hz
    refine ⟨'|' :: alternativesText verbose (b' :: later), fun hnone => ?_, ?_, hz,
      fun y hy => ⟨{ y with level := y.level.bar }, rfl, rfl, ?_⟩⟩
    · rw [List.mem_cons, not_or]
      exact ⟨by decide, not_mem_alternativesText hsymbols hnone⟩
    · refine ⟨by simp, ?_, Escape.endsBoundary_of_ne (by decide)⟩
      show (skipBlanks verbose ('|' :: _)).head? ≠ _
      rw [skipBlanks_of_isSolid (Draft.isSolid_of_meta verbose (by simp))]
      simp
    · rw [← hy]
      exact (Draft.addText_token (d := y) (b := []) (w := ['|']) (Blank.nil _) .bar
        (Draft.isSolid_of_meta _ (by simp)) rfl).symm

/-- Alternatives that are read leave no fewer groups open than they found, and as many only if their
bodies close all of their own. -/
theorem AllOutcome.depth_of_text (h : AllOutcome verbose side bodies)
    (hsymbols : ∀ b ∈ bodies, ∀ c ∈ b.1.toList, c ≠ '>' ∧ c ≠ ']') (hv : d.verbose = verbose)
    (hside : side = .closing → d.frames = [])
    (hz : d.addText (alternativesText verbose bodies) = some z) :
    d.frames.length ≤ z.frames.length ∧
      (z.frames.length = d.frames.length → ∀ b ∈ bodies, ClosesAll verbose b.2) := by
  induction bodies generalizing d with
  | nil =>
    have hz : d.addText [] = some z := hz
    rw [Draft.addText_nil] at hz
    obtain rfl := Option.some.inj hz
    exact ⟨Nat.le_refl _, fun _ b hb => absurd hb List.not_mem_nil⟩
  | cons b later ih =>
    obtain ⟨hb, hlater⟩ := h
    rw [List.forall_mem_cons] at hsymbols
    obtain ⟨tail, htail, hn, hfirst, hnext⟩ := exists_tail_of_alternativesText
      (fun b hb hmem => (hsymbols.2 b hb _ hmem).2 rfl) hz
    obtain ⟨k, y, hk, hyv, hyside, hydepth, hy⟩ :=
      hb.deepens (fun c hc => (hsymbols.1 c hc).1) hv hside htail hn hfirst
    obtain ⟨y', hyv', hyf', hy'⟩ := hnext y hy
    obtain ⟨hle, hzero⟩ := ih hlater hsymbols.2 (hyv'.trans hyv)
      (fun hs => hyf'.trans (hyside hs)) hy'
    rw [hyf', hydepth] at hle hzero
    refine ⟨Nat.le_trans (Nat.le_add_right ..) hle, fun hsame => ?_⟩
    -- What one alternative leaves open no other closes.
    obtain rfl : k = 0 := by omega
    exact List.forall_mem_cons.mpr ⟨hk rfl, hzero hsame⟩

end

end Regex
end Gazetteer
