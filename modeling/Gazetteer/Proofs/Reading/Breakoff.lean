import Gazetteer.Proofs.Reading.Comment
import Gazetteer.Proofs.Reading.Within

/-! Where a text breaks off.

A text that another one follows is read as far as its tokens end in it (`Draft.unread`), and the
rest is left to be read with the text behind it (`Draft.addText_unread`). A comment in front of a
line end changes nothing there if the text breaks off in a verbose place and nothing in the rest
looks at the comment (`Draft.skipsComment`), so the whole is read as it is without the comment
(`Draft.addText_comment`). -/
namespace Gazetteer.Regex

variable {verbose : Bool} {b cs tl tail w r : List Char} {t : Token} {d d' e : Draft}

/-! ### Lexemes with more text behind them -/

theorem skipBlanks_append {c : Char} {rest : List Char} (h : skipBlanks verbose cs = c :: rest)
    (tail : List Char) : skipBlanks verbose (cs ++ tail) = c :: (rest ++ tail) := by
  obtain ⟨b, rfl, hb, hc⟩ := skipBlanks_split_cons h
  rw [List.append_assoc, List.cons_append, hb.skip_cons hc]

theorem upcoming_append_of_eq {c : Char} (h : upcoming verbose tl = some c) (tail : List Char) :
    upcoming verbose (tl ++ tail) = some c := by
  obtain ⟨rest, hrest⟩ := List.head?_eq_some_iff.mp h
  rw [upcoming, skipBlanks_append hrest]
  rfl

namespace Token

theorem Lexeme.append (h : Lexeme verbose tl w t) (hn : ∀ o, Draft.Neutral verbose o tail) :
    Lexeme verbose (tl ++ tail) w t := by
  refine h.congr_tail (fun _ hhead => ?_) (fun _ hnext => ?_) fun _ _ hedge => ?_
  · cases tl with
    | nil => exact absurd hhead (hn false).head
    | cons c tl => exact hhead
  · cases hskip : skipBlanks verbose tl with
    | nil =>
      obtain ⟨o, ho⟩ := Draft.trailing_of_skipBlanks hskip
      rw [upcoming, ho.skip] at hnext
      exact absurd hnext (hn o).next
    | cons c rest =>
      rw [upcoming, skipBlanks_append hskip] at hnext
      rw [upcoming, hskip]
      exact hnext
  · cases tl with
    | nil => exact (hn false).edge
    | cons c tl =>
      by_cases hc : c = '{'
      · subst hc
        rw [List.cons_append]
        unfold Escape.endsBoundary at hedge ⊢
        simp only at hedge ⊢
        cases hskip : skipBlanks verbose tl with
        | nil => rw [hskip] at hedge; exact absurd hedge (by simp)
        | cons d rest =>
          rw [hskip] at hedge
          rw [skipBlanks_append hskip]
          exact hedge
      · exact Escape.endsBoundary_of_ne hc

/-- A lexeme that takes nothing from a text behind it is one without the text, unless it is a `\b`
and the name of a word edge may begin behind it. -/
theorem Lexeme.of_append (h : Lexeme verbose (tl ++ tail) w t) :
    Lexeme verbose tl w t ∨
      w = ['\\', 'b'] ∧ ∃ inner, tl = '{' :: inner ∧ skipBlanks verbose inner = [] := by
  by_cases hb : w = ['\\', 'b'] ∧ ∃ inner, tl = '{' :: inner ∧ skipBlanks verbose inner = []
  · exact .inr hb
  · refine .inl (h.congr_tail (fun _ hhead => ?_) (fun _ hnext => upcoming_append_of_eq hnext tail)
      fun _ hw hedge => ?_)
    · obtain ⟨x, rfl⟩ := List.head?_eq_some_iff.mp hhead
      rfl
    · cases tl with
      | nil => rfl
      | cons c tl =>
        by_cases hc : c = '{'
        · subst hc
          cases hskip : skipBlanks verbose tl with
          | nil => exact absurd ⟨hw, tl, rfl, hskip⟩ hb
          | cons d rest =>
            rw [List.cons_append] at hedge
            unfold Escape.endsBoundary at hedge ⊢
            simp only at hedge ⊢
            rw [skipBlanks_append hskip] at hedge
            rw [hskip]
            exact hedge
        · exact Escape.endsBoundary_of_ne hc

/-- If a text is no token, then what is left before the text behind it begins with a brace. -/
theorem leaves_brace (hnone : read verbose r = none)
    (hread : read verbose (r ++ tail) = some (t, cs ++ tail)) (htail : tail ≠ []) :
    t.lasts ∧
      ∃ inner, r = '\\' :: 'b' :: cs ∧ cs = '{' :: inner ∧ skipBlanks verbose inner = [] := by
  obtain ⟨w, tl, htext, hleaves, hw⟩ := read_sound hread
  obtain ⟨b, rfl, hblank⟩ : ∃ b, tl = b ++ (cs ++ tail) ∧ Blank verbose b := by
    rcases hleaves with rfl | ⟨-, hskip⟩
    · exact ⟨[], rfl, .nil verbose⟩
    · have hne : skipBlanks verbose tl ≠ [] := by
        rw [← hskip]
        exact List.append_ne_nil_of_right_ne_nil cs htail
      obtain ⟨b, hb, hblank⟩ := skipBlanks_split verbose tl hne
      exact ⟨b, by rw [hskip]; exact hb, hblank⟩
  rw [← List.append_assoc, ← List.append_assoc, List.append_cancel_right_eq] at htext
  rw [← List.append_assoc] at hw
  rcases hw.of_append with hw' | ⟨rfl, inner, hinner, hskip⟩
  · obtain ⟨rest, hrest, -⟩ := read_complete hw'
    rw [List.append_assoc] at htext
    rw [← htext, hnone] at hrest
    exact absurd hrest (by simp)
  · have hlasts : t.lasts := by
      cases hw with
      | escape => rfl
    cases b with
    | nil => exact ⟨hlasts, inner, htext, hinner, hskip⟩
    | cons c b =>
      obtain ⟨rfl, -⟩ := List.cons.inj hinner
      exact absurd hblank.head (by decide)

end Token

namespace Draft

/-! ### Reading up to the end -/

/-- The draft with the tokens that end in the text, and what is left of the text. Nothing if a token
has no place. -/
def unread (d : Draft) (cs : List Char) : Option (Draft × List Char) :=
  match hs : skipBlanks d.verbose cs with
  | [] => some (d, [])
  | c :: cs' =>
    match h : Token.read d.verbose (c :: cs') with
    | none => some (d, c :: cs')
    | some (token, rest) =>
      have : rest.length < cs.length := by
        have h₁ := Token.length_read_lt h
        have h₂ := length_skipBlanks_le d.verbose cs
        rw [hs] at h₂
        omega
      match d.add token with
      | none => none
      | some d => d.unread rest
termination_by cs.length

theorem unread_eq (d : Draft) (cs : List Char) :
    d.unread cs =
      match skipBlanks d.verbose cs with
      | [] => some (d, [])
      | c :: cs' =>
        match Token.read d.verbose (c :: cs') with
        | none => some (d, c :: cs')
        | some (t, rest) => (d.add t).bind fun d' => d'.unread rest := by
  rw [unread]
  split
  · rename_i hs
    rw [hs]
  · rename_i c cs' hs
    simp only [hs]
    split
    · rename_i h
      simp only [h]
    · rename_i t rest h
      simp only [h]
      split <;> rename_i ha <;> rw [ha] <;> rfl

theorem unread_congr {cs' : List Char} (h : skipBlanks d.verbose cs = skipBlanks d.verbose cs') :
    d.unread cs = d.unread cs' := by
  rw [unread_eq, unread_eq, h]

theorem unread_leaves {rest : List Char} (ha : d.add t = some d')
    (h : Token.Leaves d.verbose t tl rest) : d'.unread rest = d'.unread tl := by
  rcases h with rfl | ⟨ht, rfl⟩
  · rfl
  · rw [← verbose_of_lasts ht ha]
    exact unread_congr (skipBlanks_skipBlanks d'.verbose tl)

/-- A text is read token by token as far as its tokens end in it. -/
theorem addText_unread (hn : ∀ v o, Neutral v o tail)
    (hclosed : dropBlanks true tail = dropBlanks false tail) (d : Draft) (cs : List Char) :
    d.addText (cs ++ tail) = (d.unread cs).bind fun p => p.1.addText (p.2 ++ tail) := by
  induction hlength : cs.length using Nat.strongRecOn generalizing d cs with
  | ind n ih =>
    rw [unread_eq]
    cases hskip : skipBlanks d.verbose cs with
    | nil =>
      obtain ⟨o, ho⟩ := trailing_of_skipBlanks hskip
      refine addText_congr ((ho.skip tail).trans ?_)
      cases o with
      | false => rfl
      | true =>
        cases hv : d.verbose with
        | false => rw [hv] at ho; exact absurd ho.2 (by simp)
        | true =>
          rw [if_pos rfl, hclosed]
          exact skipBlanks_skipBlanks true tail
    | cons c x =>
      obtain ⟨b, rfl, hb, hc⟩ := skipBlanks_split_cons hskip
      simp only
      cases hread : Token.read d.verbose (c :: x) with
      | none =>
        refine addText_congr ?_
        rw [skipBlanks_append hskip, List.cons_append, skipBlanks_of_isSolid hc]
      | some p =>
        obtain ⟨t, rest⟩ := p
        obtain ⟨w, tl, htext, hleaves, hw⟩ := Token.read_sound hread
        have hsolid := Bracket.head_solid (hskip.trans htext)
        have hw' := hw.append (hn d.verbose)
        have hshorter : tl.length < n := by
          obtain ⟨c', w', rfl⟩ := hw.cons
          rw [← hlength, htext]
          simp only [List.length_append, List.length_cons]
          omega
        rw [htext, List.append_assoc, List.append_assoc]
        cases hadd : d.add t with
        | none =>
          simp only [hadd]
          exact addText_token_none hb hw' hsolid hadd
        | some d' =>
          simp only [hadd, Option.bind_some]
          rw [addText_token hb hw' hsolid hadd, unread_leaves hadd hleaves]
          exact ih tl.length hshorter d' tl rfl

/-- What is left of a text begins with something that is no token in it. -/
theorem read_unread (h : d.unread cs = some (e, r)) (hr : r ≠ []) :
    skipBlanks e.verbose r = r ∧ Token.read e.verbose r = none := by
  induction hlength : cs.length using Nat.strongRecOn generalizing d cs with
  | ind n ih =>
    rw [unread_eq] at h
    cases hskip : skipBlanks d.verbose cs with
    | nil =>
      rw [hskip] at h
      exact absurd (Prod.mk.inj (Option.some.inj h)).2.symm hr
    | cons c x =>
      rw [hskip] at h
      simp only at h
      split at h
      · rename_i hread
        obtain ⟨rfl, rfl⟩ := Prod.mk.inj (Option.some.inj h)
        exact ⟨skipBlanks_of_isSolid (isSolid_of_skipBlanks hskip) x, hread⟩
      · rename_i t rest hread
        obtain ⟨d', -, h⟩ := Option.bind_eq_some_iff.mp h
        have hlt := Token.length_read_lt hread
        have hle := length_skipBlanks_le d.verbose cs
        rw [hskip] at hle
        exact ih rest.length (by omega) h rfl

/-! ### A comment behind a text -/

/-- Whether a comment behind the text is left out: the text breaks off in a verbose place, not
behind a backslash, and if in a class, then behind nothing that looks at the comment. -/
def skipsComment (d : Draft) (cs : List Char) : Bool :=
  match d.unread cs with
  | none => true
  | some (e, r) => e.verbose && r != ['\\'] && (r.head? != some '[' || settled r)

theorem neutral_of_dropBlanks {c : Char} {x : List Char} (hc : c = '\n' ∨ c = '#')
    (hdrop : ∀ o, dropBlanks o (c :: x) = dropBlanks false tl) (h : upcoming true tl ≠ some '?')
    (v o : Bool) : Neutral v o (c :: x) := by
  have hhead : (c :: x).head? ≠ some '?' ∧ c ≠ '{' := by
    rcases hc with rfl | rfl <;> exact ⟨by simp, by decide⟩
  refine ⟨hhead.1, ?_, Escape.endsBoundary_of_ne hhead.2⟩
  have hnext : upcoming true (c :: x) ≠ some '?' := by
    show (dropBlanks false (c :: x)).head? ≠ some '?'
    rw [hdrop]
    exact h
  cases o with
  | false =>
    cases v with
    | false => exact hhead.1
    | true => exact hnext
  | true =>
    rw [if_pos rfl, hdrop]
    cases v with
    | false => exact h
    | true =>
      show (skipBlanks true (skipBlanks true tl)).head? ≠ some '?'
      rw [skipBlanks_skipBlanks]
      exact h

theorem read_brace_eq_none {inner : List Char} (h : skipBlanks true inner = []) :
    Token.read true ('{' :: inner) = none := by
  have hcount : readCount true [] = none := by simp [readCount, spanBlanks]
  have hcounts : Token.readCounts true inner = none := by
    unfold Token.readCounts
    rw [h, hcount]
    rfl
  unfold Token.read
  simp only
  rw [hcounts]
  rfl

/-- A token that does not end in a text is read as it is read with a comment behind the text. -/
theorem addText_stuck {k : List Char} (hk : '\n' ∉ k) (hv : d.verbose = true) (hr : r ≠ [])
    (hskip : skipBlanks true r = r) (hread : Token.read true r = none) (hslash : r ≠ ['\\'])
    (hclass : r.head? = some '[' → settled r) :
    d.addText (r ++ '\n' :: tl) = d.addText (r ++ '#' :: (k ++ '\n' :: tl)) := by
  induction hlength : r.length using Nat.strongRecOn generalizing d r with
  | ind n ih =>
    obtain ⟨c, x, rfl⟩ := List.exists_cons_of_ne_nil hr
    have hsolid := isSolid_of_skipBlanks hskip
    have hrel : Commented k tl (c == '[') (c :: x ++ '\n' :: tl)
        (c :: x ++ '#' :: (k ++ '\n' :: tl)) :=
      .append hk tl fun hc => hclass (by simpa using hc)
    have hstep := Token.read_aligned ⟨hrel, rfl⟩ (fun hc => by simpa using hc) fun hc => by
      cases x with
      | nil => exact absurd (by simpa using hc) hslash
      | cons d x => rfl
    rw [addText_eq, addText_eq, hv, List.cons_append, List.cons_append,
      skipBlanks_of_isSolid hsolid, skipBlanks_of_isSolid hsolid]
    simp only
    rw [List.cons_append, List.cons_append] at hstep
    generalize hleft : Token.read true (c :: (x ++ '\n' :: tl)) = p,
      Token.read true (c :: (x ++ '#' :: (k ++ '\n' :: tl))) = q at hstep ⊢
    cases hstep with
    | neither => rfl
    | both t hrest =>
      simp only
      cases hadd : d.add t with
      | none => rfl
      | some d' =>
        rcases hrest.eq_or_split with rfl | ⟨u, rfl, rfl⟩
        · rfl
        -- Only a `\b` before a brace leaves something that stands before the comment.
        obtain ⟨hlasts, inner, hx, rfl, hinner⟩ := Token.leaves_brace hread hleft (by simp)
        refine ih ('{' :: inner).length ?_ ((verbose_of_lasts hlasts hadd).trans hv) (by simp)
          (skipBlanks_of_isSolid (by decide) inner) (read_brace_eq_none hinner) (by simp) (by simp)
          rfl
        rw [← hlength, hx]
        simp

/-- **A comment at the end of a line is left out** if the text before it breaks off in a verbose
place where nothing looks at the comment. -/
theorem addText_comment {k : List Char} (hk : '\n' ∉ k) (hnext : upcoming true tl ≠ some '?')
    (h : d.skipsComment cs) :
    d.addText (cs ++ '#' :: (k ++ '\n' :: tl)) = d.addText (cs ++ '\n' :: tl) := by
  have hline := fun o => dropBlanks_line o tl
  have hcomment := fun o => dropBlanks_commentLine hk o tl
  rw [addText_unread (neutral_of_dropBlanks (.inl rfl) hline hnext)
      ((hline _).trans (hline _).symm),
    addText_unread (neutral_of_dropBlanks (.inr rfl) hcomment hnext)
      ((hcomment _).trans (hcomment _).symm)]
  unfold skipsComment at h
  cases hunread : d.unread cs with
  | none => rfl
  | some p =>
    obtain ⟨e, r⟩ := p
    rw [hunread] at h
    simp only [Bool.and_eq_true, bne_iff_ne, Bool.or_eq_true] at h
    obtain ⟨⟨hv, hslash⟩, hclass⟩ := h
    simp only [Option.bind_some]
    by_cases hr : r = []
    · subst hr
      refine addText_congr ?_
      rw [hv]
      exact (hcomment false).trans (hline false).symm
    · obtain ⟨hskip, hread⟩ := read_unread hunread hr
      rw [hv] at hskip hread
      exact (addText_stuck hk hv hr hskip hread hslash fun hhead =>
        hclass.resolve_left fun hne => hne hhead).symm

/-! ### What keeps a comment left out -/

theorem skipsComment_nil (d : Draft) : d.skipsComment [] = d.verbose := by
  have hunread : d.unread [] = some (d, []) := by
    rw [unread_eq]
    cases d.verbose <;> rfl
  unfold skipsComment
  rw [hunread]
  show (d.verbose && true && true) = d.verbose
  rw [Bool.and_true, Bool.and_true]

theorem skipsComment_congr {cs' : List Char}
    (h : skipBlanks d.verbose cs = skipBlanks d.verbose cs') :
    d.skipsComment cs = d.skipsComment cs' := by
  unfold skipsComment
  rw [unread_congr h]

theorem skipsComment_token (hb : Blank d.verbose b) (hw : Token.Lexeme d.verbose tl w t)
    (hsolid : w.head?.all (isSolid d.verbose)) :
    d.skipsComment (b ++ (w ++ tl)) = (d.add t).all (·.skipsComment tl) := by
  obtain ⟨rest, hread, hrest⟩ := Token.read_complete hw
  obtain ⟨c, x, rfl⟩ := hw.cons
  unfold skipsComment
  rw [unread_eq, List.cons_append, hb.skip_cons (by simpa using hsolid)]
  simp only
  rw [← List.cons_append, hread]
  cases hadd : d.add t with
  | none => simp only [hadd, Option.bind_none, Option.all_none]
  | some d' => simp only [hadd, Option.bind_some, Option.all_some, unread_leaves hadd hrest]

/-- Behind a text that can be read alone a comment is left out inside a group as well. -/
theorem Lexed.skipsComment_within {o : Bool} (h : Lexed d cs e o) (d₀ : Draft)
    (hn : Neutral e.verbose o tail)
    (htail : (d₀.within e).skipsComment (if o then dropBlanks true tail else tail)) :
    (d₀.within d).skipsComment (cs ++ tail) := by
  induction h with
  | @blank d b o hb =>
    rw [skipsComment_congr (d := d₀.within d) (hb.skip tail)]
    exact htail
  | @token d d' e b w tl t o hb hw hsolid ha hlexed ih =>
    have hw' : Token.Lexeme d.verbose (tl ++ tail) w t := hw.congr fun ht => by
      rw [← verbose_of_lasts ht ha]
      exact hlexed.alike hn
    rw [List.append_assoc, List.append_assoc,
      skipsComment_token (d := d₀.within d) hb hw' hsolid]
    cases hadd : (d₀.within d).add t with
    | none => rfl
    | some x =>
      obtain rfl := add_within hw.isSimple ha hadd
      exact ih hn htail

end Draft
end Gazetteer.Regex
