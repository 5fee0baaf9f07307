import Gazetteer.Regex.Draft
import Gazetteer.Proofs.Reading.Token

/-! What a draft takes.

A text is read lexeme by lexeme (`Lexed`). What a draft becomes is determined by the lexemes
alone, so a text may be put before another one (`Lexed.addText_append`), as long as the other
does not continue its last token or stand in its last comment. -/
namespace Gazetteer.Regex

namespace Token

/-- The text `tl'` in the place of `tl` continues no token that ended before `tl`. -/
structure Alike (verbose : Bool) (tl tl' : List Char) : Prop where
  head : tl'.head? = some '?' → tl.head? = some '?'
  next : upcoming verbose tl' = some '?' → upcoming verbose tl = some '?'
  edge : Escape.endsBoundary verbose tl' = true

/-- A lexeme is one with other text behind it, if what it looks at there is the same. -/
theorem Lexeme.congr_tail {verbose : Bool} {tl tl' w : List Char} {t : Token}
    (h : Lexeme verbose tl w t)
    (head : t.lasts → tl'.head? = some '?' → tl.head? = some '?')
    (next : t.lasts → upcoming verbose tl' = some '?' → upcoming verbose tl = some '?')
    (edge : t.lasts → w = ['\\', 'b'] → Escape.endsBoundary verbose tl = true →
      Escape.endsBoundary verbose tl' = true) : Lexeme verbose tl' w t := by
  cases h with
  | capture hnext => exact .capture (mt (next rfl) hnext)
  | group hb hh => exact .group hb hh
  | close => exact .close
  | bar => exact .bar
  | set ho hu => exact .set ho hu
  | many hc hhead => exact .many hc (mt (head rfl) hhead)
  | few hc => exact .few hc
  | countedMany hk hnext => exact .countedMany hk (mt (next rfl) hnext)
  | countedFew hk hb => exact .countedFew hk hb
  | escape he hedge =>
    exact .escape he fun hb => edge rfl (congrArg ('\\' :: ·) hb) (hedge hb)
  | single hc => exact .single hc

theorem Lexeme.congr {verbose : Bool} {tl tl' w : List Char} {t : Token}
    (h : Lexeme verbose tl w t) (ha : t.lasts → Alike verbose tl tl') :
    Lexeme verbose tl' w t :=
  h.congr_tail (fun ht => (ha ht).head) (fun ht => (ha ht).next) fun ht _ _ => (ha ht).edge

theorem Lexeme.cons {verbose : Bool} {tl w : List Char} {t : Token} (h : Lexeme verbose tl w t) :
    ∃ c x, w = c :: x := by
  cases h <;> exact ⟨_, _, rfl⟩

/-- No word edge is named where a lexeme begins. -/
theorem Lexeme.edge {verbose : Bool} {tl w : List Char} {t : Token} (h : Lexeme verbose tl w t)
    (x : List Char) : Escape.endsBoundary verbose (w ++ x) = true := by
  cases h with
  | countedMany hk _ => exact hk.edge x
  | countedFew hk hb =>
    rw [List.cons_append, List.append_assoc]
    exact hk.edge _
  | many hc _ | few hc =>
    refine Escape.endsBoundary_of_ne ?_
    rintro rfl
    exact absurd hc (by simp [mark?])
  | single hc =>
    refine Escape.endsBoundary_of_ne ?_
    rintro rfl
    exact absurd hc (by simp [single?])
  | _ => exact Escape.endsBoundary_of_ne (by decide)

end Token

namespace Draft

/-! ### Reading token by token -/

theorem addText_eq (d : Draft) (cs : List Char) :
    d.addText cs =
      match skipBlanks d.verbose cs with
      | [] => some d
      | c :: cs' =>
        match Token.read d.verbose (c :: cs') with
        | none => none
        | some (t, rest) => (d.add t).bind fun d' => d'.addText rest := by
  rw [addText]
  split
  · rename_i hs
    rw [hs]
  · rename_i c cs' hs
    simp only [hs]
    split
    · rename_i h
      simp only [h]
    · rename_i t rest h
      simp only [h]
      split <;> rename_i ha <;> rw [ha] <;> rfl

theorem addText_congr {d : Draft} {cs cs' : List Char}
    (h : skipBlanks d.verbose cs = skipBlanks d.verbose cs') : d.addText cs = d.addText cs' := by
  rw [addText_eq, addText_eq, h]

theorem addText_nil (d : Draft) : d.addText [] = some d := by
  rw [addText_eq]
  cases d.verbose <;> rfl

theorem verbose_of_lasts {d d' : Draft} {t : Token} (ht : t.lasts) (h : d.add t = some d') :
    d'.verbose = d.verbose := by
  unfold add at h
  split at h
  · unfold openGroup at h
    split at h
    · obtain rfl := Option.some.inj h
      rfl
    · exact absurd ht (by simp [Token.lasts])
    · exact absurd ht (by simp [Token.lasts])
  · exact absurd ht (by simp [Token.lasts])
  · exact absurd ht (by simp [Token.lasts])
  · exact absurd ht (by simp [Token.lasts])
  · obtain ⟨l, -, rfl⟩ := Option.map_eq_some_iff.1 h
    rfl
  · obtain rfl := Option.some.inj h
    rfl

/-- Blanks at the end of a text; `o` tells whether a comment is still open. -/
def Trailing (verbose : Bool) (b : List Char) (o : Bool) : Prop :=
  if verbose then commentAfter false b = some o else b = [] ∧ o = false

/-- The text leads from one draft to another, in lexemes with blanks between, and `o` tells
whether a comment is open at its end. -/
inductive Lexed : Draft → List Char → Draft → Bool → Prop
  | blank {d : Draft} {b : List Char} {o : Bool} (hb : Trailing d.verbose b o) : Lexed d b d o
  | token {d d' e : Draft} {b w tl : List Char} {t : Token} {o : Bool} (hb : Blank d.verbose b)
    (hw : Token.Lexeme d.verbose tl w t) (hsolid : w.head?.all (isSolid d.verbose))
    (ha : d.add t = some d') (h : Lexed d' tl e o) : Lexed d (b ++ (w ++ tl)) e o

theorem addText_leaves {d d' : Draft} {t : Token} {tl rest : List Char} (ha : d.add t = some d')
    (hrest : Token.Leaves d.verbose t tl rest) : d'.addText rest = d'.addText tl := by
  rcases hrest with rfl | ⟨ht, rfl⟩
  · rfl
  · rw [← verbose_of_lasts ht ha]
    exact addText_congr (skipBlanks_skipBlanks d'.verbose tl)

/-- A lexeme behind blanks is read first. -/
theorem addText_lexeme {d : Draft} {b w tl : List Char} {t : Token} (hb : Blank d.verbose b)
    (hw : Token.Lexeme d.verbose tl w t) (hsolid : w.head?.all (isSolid d.verbose)) :
    ∃ rest, Token.Leaves d.verbose t tl rest ∧
      d.addText (b ++ (w ++ tl)) = (d.add t).bind fun d' => d'.addText rest := by
  obtain ⟨rest, hread, hrest⟩ := Token.read_complete hw
  obtain ⟨c, x, rfl⟩ := hw.cons
  refine ⟨rest, hrest, ?_⟩
  rw [addText_eq, List.cons_append, hb.skip_cons (by simpa using hsolid)]
  simp only
  rw [← List.cons_append, hread]

/-- A lexeme behind blanks is added as its token. -/
theorem addText_token {d d' : Draft} {b w tl : List Char} {t : Token} (hb : Blank d.verbose b)
    (hw : Token.Lexeme d.verbose tl w t) (hsolid : w.head?.all (isSolid d.verbose))
    (ha : d.add t = some d') : d.addText (b ++ (w ++ tl)) = d'.addText tl := by
  obtain ⟨rest, hrest, htext⟩ := addText_lexeme hb hw hsolid
  rw [htext, ha, Option.bind_some, addText_leaves ha hrest]

theorem addText_token_none {d : Draft} {b w tl : List Char} {t : Token} (hb : Blank d.verbose b)
    (hw : Token.Lexeme d.verbose tl w t) (hsolid : w.head?.all (isSolid d.verbose))
    (ha : d.add t = none) : d.addText (b ++ (w ++ tl)) = none := by
  obtain ⟨rest, -, htext⟩ := addText_lexeme hb hw hsolid
  rw [htext, ha, Option.bind_none]

theorem Trailing.skip {verbose o : Bool} {b : List Char} (h : Trailing verbose b o)
    (tail : List Char) :
    skipBlanks verbose (b ++ tail) =
      skipBlanks verbose (if o then dropBlanks true tail else tail) := by
  cases verbose with
  | false =>
    obtain ⟨rfl, rfl⟩ : b = [] ∧ o = false := h
    rfl
  | true =>
    have h : commentAfter false b = some o := h
    cases o with
    | false => exact dropBlanks_append h tail
    | true =>
      rw [if_pos rfl]
      have hsame := skipBlanks_skipBlanks true (b ++ tail)
      rw [← hsame]
      exact congrArg (skipBlanks true) (dropBlanks_append h tail)

theorem Trailing.skip_eq_nil {verbose o : Bool} {b : List Char} (h : Trailing verbose b o) :
    skipBlanks verbose b = [] := by
  have hskip := h.skip []
  rw [List.append_nil] at hskip
  rw [hskip]
  cases o <;> cases verbose <;> rfl

theorem trailing_of_skipBlanks {verbose : Bool} {b : List Char} (h : skipBlanks verbose b = []) :
    ∃ o, Trailing verbose b o := by
  cases verbose with
  | false => exact ⟨false, h, rfl⟩
  | true =>
    obtain ⟨b', o, hb, ho, -⟩ := dropBlanks_split false b
    have h : dropBlanks false b = [] := h
    rw [h, List.append_nil] at hb
    exact ⟨o, hb ▸ ho⟩

/-- What was read into a draft is a run of lexemes. -/
theorem addText_sound {d e : Draft} {cs : List Char} (h : d.addText cs = some e) :
    ∃ o, Lexed d cs e o := by
  induction hn : cs.length using Nat.strongRecOn generalizing d cs with
  | ind n ih =>
    rw [addText_eq] at h
    cases hskip : skipBlanks d.verbose cs with
    | nil =>
      rw [hskip] at h
      obtain rfl := Option.some.inj h
      obtain ⟨o, ho⟩ := trailing_of_skipBlanks hskip
      exact ⟨o, .blank ho⟩
    | cons c cs' =>
      rw [hskip] at h
      simp only at h
      split at h
      · exact absurd h (by simp)
      · rename_i t rest hread
        obtain ⟨d', ha, hrest⟩ := Option.bind_eq_some_iff.1 h
        obtain ⟨w, tl, htext, hleaves, hw⟩ := Token.read_sound hread
        obtain ⟨b, hb, hblank, hc⟩ := skipBlanks_split_cons hskip
        obtain ⟨c', x, rfl⟩ := hw.cons
        obtain ⟨rfl, rfl⟩ := List.cons.inj htext
        subst hb
        rw [addText_leaves ha hleaves] at hrest
        obtain ⟨o, hlexed⟩ := ih tl.length (by simp [← hn]; omega) hrest rfl
        exact ⟨o, by simpa using Lexed.token (w := c :: x) hblank hw (by simpa using hc) ha hlexed⟩

/-! ### More text -/

/-- Two texts go on alike after the same blanks if the same kind of character comes next. -/
theorem alike_of_heads {verbose : Bool} {b x x' : List Char} {c c' : Char}
    (hb : Blank verbose b) (hc : isSolid verbose c) (hc' : isSolid verbose c')
    (hq : c' = '?' → c = '?') (hedge : Escape.endsBoundary verbose (c' :: x') = true) :
    Token.Alike verbose (b ++ c :: x) (b ++ c' :: x') := by
  refine ⟨fun h => ?_, fun h => ?_, ?_⟩
  · cases b with
    | nil => simpa using hq (by simpa using h)
    | cons d b => exact h
  · rw [upcoming, hb.skip_cons hc'] at h
    rw [upcoming, hb.skip_cons hc]
    simpa using hq (by simpa using h)
  · cases b with
    | nil => exact hedge
    | cons d b =>
      refine Escape.endsBoundary_of_ne ?_
      rcases hb.head with hd | rfl
      · rintro rfl
        exact absurd hd (by decide)
      · decide

/-- A text continues no token that comes before it; `o` tells whether it begins in a comment. -/
structure Neutral (verbose o : Bool) (tail : List Char) : Prop where
  head : tail.head? ≠ some '?'
  next : upcoming verbose (if o then dropBlanks true tail else tail) ≠ some '?'
  edge : Escape.endsBoundary verbose tail = true

theorem Neutral.nil (verbose o : Bool) : Neutral verbose o [] := by
  refine ⟨by simp, ?_, rfl⟩
  cases o <;> cases verbose <;> simp [upcoming, skipBlanks, dropBlanks]

theorem Trailing.alike {verbose o : Bool} {b tail : List Char} (hb : Trailing verbose b o)
    (hn : Neutral verbose o tail) : Token.Alike verbose b (b ++ tail) := by
  have hnext : upcoming verbose (b ++ tail) ≠ some '?' := by
    rw [upcoming, hb.skip]
    exact hn.next
  cases b with
  | nil => exact ⟨fun h => absurd h hn.head, fun h => absurd h hnext, hn.edge⟩
  | cons c b =>
    have hc : Unicode.isSpace c ∨ c = '#' := by
      cases verbose with
      | false =>
        have hb : c :: b = [] ∧ o = false := hb
        exact absurd hb.1 (by simp)
      | true => exact head_of_commentAfter (o := o) hb
    refine ⟨fun h => ?_, fun h => absurd h hnext, Escape.endsBoundary_of_ne ?_⟩
    · obtain rfl : c = '?' := by simpa using h
      exact absurd hc (by decide)
    · rintro rfl
      exact absurd hc (by decide)

theorem Lexed.alike {d e : Draft} {cs tail : List Char} {o : Bool} (h : Lexed d cs e o)
    (hn : Neutral e.verbose o tail) : Token.Alike d.verbose cs (cs ++ tail) := by
  cases h with
  | blank hb => exact hb.alike hn
  | @token _ d' _ b w tl t _ hb hw hsolid ha _ =>
    obtain ⟨c, x, rfl⟩ := hw.cons
    have hc : isSolid d.verbose c := by simpa using hsolid
    have hedge := hw.edge (tl ++ tail)
    rw [List.append_assoc, List.append_assoc]
    exact alike_of_heads hb hc hc id hedge

/-- A text before another one is read as it is read alone. -/
theorem Lexed.addText_append {d e : Draft} {cs tail : List Char} {o : Bool} (h : Lexed d cs e o)
    (hn : Neutral e.verbose o tail) :
    d.addText (cs ++ tail) = e.addText (if o then dropBlanks true tail else tail) := by
  induction h with
  | blank hb => exact addText_congr (hb.skip tail)
  | @token d d' e b w tl t o hb hw hsolid ha hlexed ih =>
    have hw' : Token.Lexeme d.verbose (tl ++ tail) w t := hw.congr fun ht => by
      rw [← verbose_of_lasts ht ha]
      exact hlexed.alike hn
    rw [List.append_assoc, List.append_assoc, addText_token hb hw' hsolid ha]
    exact ih hn

theorem Lexed.addText {d e : Draft} {cs : List Char} {o : Bool} (h : Lexed d cs e o) :
    d.addText cs = some e := by
  have := h.addText_append (.nil e.verbose o)
  rw [List.append_nil] at this
  rw [this]
  cases o <;> exact addText_nil e

end Draft

/-- A pattern that is accepted is read as lexemes, with no group left open. -/
theorem Ast.read_eq_some {verbose : Bool} {pattern : String} {a : Ast}
    (h : read verbose pattern = some a) :
    a.height ≤ heightLimit ∧ ∃ e o, Draft.Lexed (.start verbose) pattern.toList e o ∧
      e.opened = [] ∧ e.level.content = a := by
  unfold read at h
  obtain ⟨e, he, h⟩ := Option.bind_eq_some_iff.1 h
  obtain ⟨a', ha, h⟩ := Option.bind_eq_some_iff.1 h
  obtain ⟨o, hlexed⟩ := Draft.addText_sound he
  unfold Draft.finish at ha
  split at ha
  · rename_i hopened
    obtain rfl := Option.some.inj ha
    split at h
    · rename_i hheight
      obtain rfl := Option.some.inj h
      exact ⟨hheight, e, o, hlexed, List.isEmpty_iff.mp hopened, rfl⟩
    · exact absurd h (by simp)
  · exact absurd ha (by simp)

end Gazetteer.Regex
