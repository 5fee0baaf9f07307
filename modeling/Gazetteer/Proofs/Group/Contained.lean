import Gazetteer.Proofs.Narrowing.Accepted
import Gazetteer.Proofs.Reading.Refusal

/-! Patterns that nothing around them mends.

A pattern is contained if it is known, before anything is changed in it or put around it, how it is
going to be read: to its end, up to a token that is refused, up to a backslash at its end or up to a
parenthesis that closes nothing (`Contained`). Narrowing it then leaves that as it is
(`Contained.narrow`). -/
namespace Gazetteer.Regex

open Pattern (Anchor Outline asciiFrom bounded)
open Pattern.Outline (Passes isSeparator)

/-- The side on which parentheses may be missing from the patterns of a group. -/
inductive Side
  | opening
  | closing
  deriving DecidableEq

/-- The scans that narrow a text and that place anchors in it see it as the reader does. -/
structure Scanned (verbose ascii bounded : Bool) (cs : List Char) : Prop where
  narrows : ascii → (Draft.start verbose).agrees verbose cs ∧ namesNoEdge cs
  bounds : bounded →
    (Draft.start verbose).agrees verbose (if ascii then Pattern.asciiOnly verbose cs else cs)

/-- The scans leave a text as it is, `k` groups deep. -/
structure Copied (verbose ascii bounded : Bool) (k : Nat) (w : List Char) : Prop where
  narrows : ascii → asciiFrom verbose (Outline.level k) w = w
  bounds : bounded → ∀ mark ∈ (Outline.level k).marks verbose w, isSeparator mark = false

/-- What stands behind a pattern: the anchor at its end, or what closes the group around it. -/
def behind (verbose : Bool) : Option Anchor → List Char
  | none => closing verbose
  | some anchor => lineEnd verbose ++ anchor.text

/-- How a pattern is read can be told from the pattern alone, if it still has to be narrowed
(`ascii`) and to get anchors (`anchor`). No bracket stands behind it in its group unless `bracket`
is set. -/
inductive Contained (verbose ascii : Bool) (anchor : Option Anchor) (side : Side) (bracket : Bool) :
    List Char → Prop
  /-- It is read to its end. A group that is left open ends as verbose as the pattern began. -/
  | ends {cs : List Char} {e : Draft} {o : Bool} (h : Draft.Lexed (.start verbose) cs e o)
    (ho : verbose = false → o = false)
    (hopened : ∀ v ∈ e.frames.head?, side = .opening ∧ v = verbose)
    (hs : Scanned verbose ascii anchor.isSome cs) : Contained verbose ascii anchor side bracket cs
  /-- It is read up to a token that is refused whatever comes behind it. -/
  | breaks {pre w : List Char} {e : Draft} (h : Draft.Lexed (.start verbose) pre e false)
    (hw : ∀ tail, e.Refuses anchor.isSome (w ++ tail))
    (hn : anchor.isSome ∨ pre ≠ [] → ∀ tail, Draft.Neutral e.verbose false (w ++ tail))
    (hs : Scanned verbose ascii anchor.isSome pre)
    (hc : Copied verbose ascii anchor.isSome e.opened.length w)
    (hescaped : ((Outline.level e.opened.length).after verbose w).escaped = false)
    (rest : List Char) : Contained verbose ascii anchor side bracket (pre ++ (w ++ rest))
  /-- It ends in a token that is refused, also with what will stand behind it. -/
  | unfinished {pre w : List Char} {e : Draft} (h : Draft.Lexed (.start verbose) pre e false)
    (hw : e.Refuses anchor.isSome w)
    (hbehind : ∀ tail, (bracket = false → ']' ∉ tail) →
      e.Refuses anchor.isSome (w ++ (behind verbose anchor ++ tail)))
    (hn : anchor.isSome ∨ pre ≠ [] → ∀ tail, Draft.Neutral e.verbose false (w ++ tail))
    (hs : Scanned verbose ascii anchor.isSome pre)
    (hc : Copied verbose ascii anchor.isSome e.opened.length w) :
    Contained verbose ascii anchor side bracket (pre ++ w)
  /-- It ends in a backslash, which takes the parenthesis that was to close the group around it. -/
  | dangles {pre : List Char} {e : Draft} (hside : side = .opening) (hplain : verbose = false)
    (hanchor : anchor = none) (h : Draft.Lexed (.start verbose) pre e false)
    (hv : e.verbose = verbose) (hs : Scanned verbose ascii anchor.isSome pre) :
    Contained verbose ascii anchor side bracket (pre ++ ['\\'])
  /-- It is read up to a parenthesis that closes nothing and to the end from there. -/
  | stray {pre post : List Char} {e e' : Draft} {o : Bool} (hside : side = .closing)
    (hpre : Draft.Lexed (.start verbose) pre e false) (hopened : e.opened = [])
    (hpost : Draft.Lexed (.start verbose) post e' o) (ho : verbose = false → o = false)
    (hopened' : e'.opened = []) (hs : Scanned verbose ascii anchor.isSome pre)
    (hs' : Scanned verbose ascii anchor.isSome post) :
    Contained verbose ascii anchor side bracket (pre ++ ')' :: post)

namespace Draft

variable {verbose : Bool} {d e : Draft} {pre post w : List Char}

/-! ### Texts that break off -/

/-- A text up to a refused token is refused in every group that it is read in. -/
theorem Lexed.addText_breaks {b : Bool} {cs : List Char} (h : Lexed (start verbose) pre e false)
    (hw : e.Refuses b cs) (hn : pre ≠ [] → Neutral e.verbose false cs) (hv : d.verbose = verbose)
    (hd : d.level = .empty) : d.addText (pre ++ cs) = none := by
  subst hv
  have hstart : d.within (start d.verbose) = d := within_start hd
  cases pre with
  | nil =>
    have he := h.addText
    rw [addText_nil] at he
    obtain rfl := Option.some.inj he
    rw [← hstart]
    exact hw.addText_within d
  | cons c pre =>
    cases hz : d.addText (c :: pre ++ cs) with
    | none => rfl
    | some z =>
      rw [← hstart] at hz
      have hrest : (d.within e).addText cs = some z := h.addText_within (hn (by simp)) hz
      rw [hw.addText_within d] at hrest
      exact absurd hrest (by simp)

/-- Outside all groups a parenthesis closes nothing. -/
theorem addText_close_eq_none (h : d.opened = []) (post : List Char) :
    d.addText (')' :: post) = none := by
  have hadd : d.add .closeGroup = none := by
    unfold add
    rw [h]
  exact addText_token_none (b := []) (w := [')']) (Blank.nil _) .close (isSolid_close _) hadd

theorem Lexed.addText_stray (h : Lexed d pre e false) (hopened : e.opened = [])
    (post : List Char) : d.addText (pre ++ ')' :: post) = none := by
  have hread := h.addText_append (e.closedBy_paren post).1
  exact hread.trans (addText_close_eq_none hopened post)

theorem refuses_backslash {b : Bool} (d : Draft) : d.Refuses b ['\\'] := by
  refine ⟨by cases d.verbose <;> rfl, fun t rest hread => ?_⟩
  have hread : none = some (t, rest) := hread
  exact absurd hread (by simp)

/-- A backslash at the end of a text takes the parenthesis behind it as an item. -/
theorem Lexed.dangling (h : Lexed (start false) pre e false) (hv : e.verbose = false) :
    Lexed (start false) (pre ++ ['\\', ')']) (e.push (.literal ')' false)) false := by
  have hitem : ∀ tail, e.addText ('\\' :: ')' :: tail) =
      (e.push (.literal ')' false)).addText tail := fun tail => by
    obtain ⟨level, opened, verbose, captures, names⟩ := e
    obtain rfl : verbose = false := hv
    rw [addText_eq]
    rfl
  have hread : ∀ tail, (start false).addText (pre ++ ['\\', ')'] ++ tail) =
      (e.push (.literal ')' false)).addText tail := fun tail => by
    rw [List.append_assoc, ← hitem]
    refine h.addText_append ⟨by simp, ?_, Escape.endsBoundary_of_ne (by decide)⟩
    rw [hv]
    simp [upcoming, skipBlanks]
  have he := hread []
  have hdot := hread ['.']
  rw [List.append_nil, addText_nil] at he
  rw [addText_dot] at hdot
  exact .of_addText he hdot (items_push_ne rfl)

/-! ### Narrowed texts -/

theorem neutral_dot (verbose : Bool) : Neutral verbose false ['.'] := by
  refine ⟨by simp, ?_, rfl⟩
  cases verbose <;> decide

theorem frames_asciiOnly (d : Draft) : d.asciiOnly.frames = d.frames :=
  List.map_map

theorem length_opened_asciiOnly (d : Draft) : d.asciiOnly.opened.length = d.opened.length :=
  List.length_map _

/-- The narrowed text is read as the text is, and leaves no comment open if that does not. -/
theorem Lexed.narrowed {cs : List Char} {o : Bool} (h : Lexed (start verbose) cs e o)
    (hs : (start verbose).agrees verbose cs ∧ namesNoEdge cs) :
    ∃ o', Lexed (start verbose) (Pattern.asciiOnly verbose cs) e.asciiOnly o' ∧
      (o = false → o' = false) := by
  have hread : (start verbose).addText (Pattern.asciiOnly verbose cs) = some e.asciiOnly :=
    h.addText_asciiOnly hs.1 hs.2
  cases o with
  | true =>
    obtain ⟨o', ho'⟩ := addText_sound hread
    exact ⟨o', ho', by simp⟩
  | false =>
    have hdot : (start verbose).addText (Pattern.asciiOnly verbose cs ++ ['.']) =
        e.asciiOnly.addText ['.'] :=
      h.addText_asciiOnly_append hs.1 hs.2 (neutral_dot _)
    rw [addText_dot] at hdot
    exact ⟨false, .of_addText hread hdot (items_push_ne rfl), fun _ => rfl⟩

/-- The narrowed text is settled at its end if the text is. -/
theorem Lexed.narrowed_settled {cs : List Char} (h : Lexed (start verbose) cs e false)
    (hs : (start verbose).agrees verbose cs ∧ namesNoEdge cs) :
    Lexed (start verbose) (Pattern.asciiOnly verbose cs) e.asciiOnly false := by
  obtain ⟨o, hnarrowed, hclosed⟩ := h.narrowed hs
  exact hclosed rfl ▸ hnarrowed

/-- What a scan copies behind a text that was read stands behind the narrowed text. -/
theorem Lexed.asciiOnly_append (h : Lexed (start verbose) pre e false)
    (ha : (start verbose).agrees verbose pre) (cs : List Char) :
    Pattern.asciiOnly verbose (pre ++ cs) =
      Pattern.asciiOnly verbose pre ++ asciiFrom verbose (Outline.level e.opened.length) cs := by
  have hafter : Outline.start.after verbose pre = Outline.level e.opened.length := h.after ha
  unfold Pattern.asciiOnly
  rw [Pattern.asciiFrom_append (by rw [hafter]; rfl), hafter]

end Draft

theorem Copied.asciiFrom_append {verbose bounded : Bool} {k : Nat} {w : List Char}
    (h : Copied verbose true bounded k w)
    (hescaped : ((Outline.level k).after verbose w).escaped = false) (rest : List Char) :
    ∃ rest', asciiFrom verbose (Outline.level k) (w ++ rest) = w ++ rest' := by
  refine ⟨asciiFrom verbose ((Outline.level k).after verbose w) rest, ?_⟩
  rw [Pattern.asciiFrom_append hescaped, h.narrows rfl]

theorem Copied.narrow {verbose bounded : Bool} {k : Nat} {w : List Char}
    (h : Copied verbose true bounded k w) : Copied verbose false bounded k w :=
  ⟨fun h => absurd h (by simp), h.bounds⟩

theorem Scanned.narrow {verbose bounded : Bool} {cs : List Char}
    (h : Scanned verbose true bounded cs) :
    Scanned verbose false bounded (Pattern.asciiOnly verbose cs) :=
  ⟨fun h => absurd h (by simp), h.bounds⟩

theorem isSome_ofPattern?_of_none {o : Options} {cs : List Char}
    (h : (Draft.start o.verbose).addText cs = none) : ¬ (ofPattern? o (.ofList cs)).isSome := by
  rw [isSome_ofPattern?_iff]
  rintro ⟨e, he, -⟩
  exact absurd (h.symm.trans he) (by simp)

namespace Contained

variable {o : Options} {side : Side} {bracket : Bool} {cs : List Char}

/-- A contained pattern stays contained when it is narrowed, and it is accepted then only if it was
before. -/
theorem narrow {anchor : Option Anchor} (h : Contained o.verbose true anchor side bracket cs) :
    Contained o.verbose false anchor side bracket (Pattern.asciiOnly o.verbose cs) ∧
      ((ofPattern? o (.ofList (Pattern.asciiOnly o.verbose cs))).isSome →
        (ofPattern? o (.ofList cs)).isSome) := by
  -- A text that narrows to something is something.
  have hneutral : ∀ {pre w : List Char} {v : Bool},
      (anchor.isSome ∨ pre ≠ [] → ∀ tail, Draft.Neutral v false (w ++ tail)) →
      anchor.isSome ∨ Pattern.asciiOnly o.verbose pre ≠ [] →
        ∀ tail, Draft.Neutral v false (w ++ tail) := fun hn hor => by
    refine hn (hor.imp_right fun hne => ?_)
    rintro rfl
    exact hne rfl
  cases h with
  | @ends _ e o' h ho hopened hs =>
    obtain ⟨o'', hnarrowed, hclosed⟩ := h.narrowed (hs.narrows rfl)
    rw [← e.frames_asciiOnly] at hopened
    refine ⟨.ends hnarrowed (fun hv => hclosed (ho hv)) hopened hs.narrow, fun haccepted => ?_⟩
    obtain ⟨z, hz, hpattern⟩ := isSome_ofPattern?_iff.mp haccepted
    obtain rfl := Option.some.inj (hnarrowed.addText.symm.trans hz)
    exact isSome_ofPattern?_iff.mpr ⟨e, h.addText, h.isPattern_of_asciiOnly hpattern⟩
  | @breaks pre w e h hw hn hs hc hescaped rest =>
    have hnarrowed := h.narrowed_settled (hs.narrows rfl)
    obtain ⟨rest', hrest⟩ := hc.asciiFrom_append hescaped rest
    have hn' := hneutral hn
    rw [h.asciiOnly_append (hs.narrows rfl).1, hrest]
    rw [← e.length_opened_asciiOnly] at hc hescaped
    refine ⟨.breaks hnarrowed (fun tail => (hw tail).asciiOnly) hn' hs.narrow hc.narrow hescaped
      rest', fun haccepted => ?_⟩
    exact absurd haccepted (isSome_ofPattern?_of_none (hnarrowed.addText_breaks
      (hw rest').asciiOnly (fun hne => hn' (.inr hne) rest') rfl rfl))
  | @unfinished pre w e h hw hbehind hn hs hc =>
    have hnarrowed := h.narrowed_settled (hs.narrows rfl)
    have hn' := hneutral hn
    rw [h.asciiOnly_append (hs.narrows rfl).1, hc.narrows rfl]
    rw [← e.length_opened_asciiOnly] at hc
    refine ⟨.unfinished hnarrowed hw.asciiOnly (fun tail ht => (hbehind tail ht).asciiOnly) hn'
      hs.narrow hc.narrow, fun haccepted => ?_⟩
    have hn'' : Pattern.asciiOnly o.verbose pre ≠ [] → Draft.Neutral e.verbose false w :=
      fun hne => by simpa using hn' (.inr hne) []
    exact absurd haccepted (isSome_ofPattern?_of_none
      (hnarrowed.addText_breaks hw.asciiOnly hn'' rfl rfl))
  | @dangles pre e hside hplain hanchor h hv hs =>
    have hnarrowed := h.narrowed_settled (hs.narrows rfl)
    have htext : Pattern.asciiOnly o.verbose (pre ++ ['\\']) =
        Pattern.asciiOnly o.verbose pre ++ ['\\'] := h.asciiOnly_append (hs.narrows rfl).1 _
    rw [htext]
    refine ⟨.dangles hside hplain hanchor hnarrowed hv hs.narrow, fun haccepted => ?_⟩
    have hn : Draft.Neutral e.verbose false ['\\'] := by
      rw [hv, hplain]
      exact ⟨by simp, by decide, rfl⟩
    exact absurd haccepted (isSome_ofPattern?_of_none
      (hnarrowed.addText_breaks (b := false) (Draft.refuses_backslash _) (fun _ => hn) rfl rfl))
  | @stray pre post e e' o' hside hpre hopened hpost ho hopened' hs hs' =>
    have hpre' := hpre.narrowed_settled (hs.narrows rfl)
    obtain ⟨o'', hpost', hclosed⟩ := hpost.narrowed (hs'.narrows rfl)
    have hpost_text : asciiFrom o.verbose (Outline.level e.opened.length) (')' :: post) =
        ')' :: Pattern.asciiOnly o.verbose post := by
      rw [hopened]
      exact Pattern.asciiFrom_cons rfl post
    rw [hpre.asciiOnly_append (hs.narrows rfl).1, hpost_text]
    have hnone : e.asciiOnly.opened = [] := by
      show e.opened.map _ = []
      rw [hopened, List.map_nil]
    have hnone' : e'.asciiOnly.opened = [] := by
      show e'.opened.map _ = []
      rw [hopened', List.map_nil]
    refine ⟨.stray hside hpre' hnone hpost' (fun hv => hclosed (ho hv)) hnone' hs.narrow
      hs'.narrow, fun haccepted => ?_⟩
    exact absurd haccepted (isSome_ofPattern?_of_none (hpre'.addText_stray hnone _))

end Contained

end Gazetteer.Regex
