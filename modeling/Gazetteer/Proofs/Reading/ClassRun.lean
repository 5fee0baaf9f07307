import Gazetteer.Proofs.Reading.Bracket

/-! What a whole class takes.

`Run` follows the reader of a class over its text, from a place inside to the last closing
bracket. What is read depends on that text alone: every look ahead stops inside it, because
the bracket at its end counts (`Run.closed`). -/
namespace Gazetteer.Regex.Bracket

/-! ### What a piece needs to know of the text after it -/

/-- Every piece before `tl` is a piece before `tl'` too. -/
structure Eases (verbose : Bool) (tl tl' : List Char) : Prop where
  head : ∀ c, (operator? c).isSome → tl'.head? = some c → tl.head? = some c
  range : rangesAt verbose tl = false → rangesAt verbose tl' = false
  next : ∀ c, upcoming verbose tl = some c →
    ∃ c', upcoming verbose tl' = some c' ∧ (c' ∈ [']', '-', '^'] → c' = c)
  ascii : readAscii tl = none → readAscii tl' = none

theorem upcoming_spaced {verbose : Bool} {u taken : List Char} (h : Spaced verbose u taken)
    (hsolid : ∀ c ∈ taken, isSolid verbose c) (tl : List Char) :
    upcoming verbose (u ++ tl) = taken.head?.or (upcoming verbose tl) := by
  induction h with
  | nil => rfl
  | char _ _ =>
    rw [List.cons_append, upcoming, skipBlanks_of_isSolid (hsolid _ (List.mem_cons_self ..))]
    rfl
  | blank hb _ ih =>
    rw [List.append_assoc, upcoming, hb.skip]
    exact ih hsolid

theorem readAscii_of_head {cs : List Char} (h : cs.head? ≠ some ':') : readAscii cs = none := by
  unfold readAscii
  split
  · exact absurd rfl h
  · rfl

theorem Leading.congr {verbose : Bool} {tl tl' l : List Char} {items : List ClassSet}
    (h : Leading verbose tl l items) (he : Eases verbose tl tl') : Leading verbose tl' l items := by
  cases h with
  | bracket hb hnext =>
    obtain ⟨c', hc', -⟩ := he.next _ hnext
    exact .bracket hb hc'
  | hyphens hu ht hnext hc hne =>
    obtain ⟨c', hc', hsame⟩ := he.next _ hnext
    refine .hyphens hu ht hc' ?_ ?_
    · rintro rfl
      exact hc (hsame (by simp)).symm
    · rintro hnil rfl
      exact hne hnil (hsame (by simp)).symm

/-- What a text before the first member shows of the text after it. -/
theorem Leading.upcoming_append {verbose : Bool} {tl l : List Char} {items : List ClassSet}
    (h : Leading verbose tl l items) :
    (∀ x, upcoming verbose (l ++ x) = upcoming verbose x) ∨
      ∃ c ∈ [']', '-'], ∀ x, upcoming verbose (l ++ x) = some c := by
  cases h with
  | bracket hb hnext =>
    refine .inr ⟨']', by simp, fun x => ?_⟩
    rw [List.append_assoc, upcoming, List.singleton_append,
      hb.skip_cons (by cases verbose <;> decide)]
    rfl
  | @hyphens u taken _ hu ht _ _ _ =>
    have hsolid : ∀ c ∈ taken, isSolid verbose c := by
      intro c hc
      rw [ht c hc]
      cases verbose <;> decide
    cases taken with
    | nil => exact .inl fun x => by rw [upcoming_spaced hu hsolid]; rfl
    | cons c taken =>
      obtain rfl := ht c (List.mem_cons_self ..)
      exact .inr ⟨'-', by simp, fun x => by rw [upcoming_spaced hu hsolid]; rfl⟩

theorem Negation.congr {verbose negated : Bool} {tl tl' l n : List Char} {items : List ClassSet}
    (h : Negation verbose (l ++ tl) n negated) (hl : Leading verbose tl l items)
    (he : Eases verbose tl tl') : Negation verbose (l ++ tl') n negated := by
  cases h with
  | caret hb => exact .caret hb
  | none hnext =>
    refine .none fun hcaret => ?_
    rcases hl.upcoming_append with hsame | ⟨c, hc, hsame⟩
    · rw [hsame] at hcaret hnext
      obtain ⟨c, more, hskip⟩ := hl.next
      have hc : upcoming verbose tl = some c := by simp [upcoming, hskip]
      obtain ⟨c', hc', heq⟩ := he.next c hc
      obtain rfl := Option.some.inj (hcaret.symm.trans hc')
      exact hnext (by rw [hc, heq (by simp)])
    · rw [hsame] at hcaret
      obtain rfl := Option.some.inj hcaret
      exact absurd hc (by decide)

/-- What belongs to an opening does not begin with a colon. -/
theorem Opening.head_ne {verbose : Bool} {tl o : List Char} {b : Bracket}
    (h : Opening verbose tl o b) : o.head? ≠ some ':' := by
  intro hcolon
  obtain ⟨x, hx⟩ := List.head?_eq_some_iff.mp hcolon
  have hnext : ∀ y, upcoming verbose (o ++ y) = some ':' := by
    intro y
    rw [hx, List.cons_append, upcoming, skipBlanks_of_isSolid (by cases verbose <;> decide)]
    rfl
  obtain @⟨n, l, negated, items, hn, hl⟩ := h
  cases hn with
  | none _ =>
    rw [List.nil_append] at hnext
    rcases hl.upcoming_append with hsame | ⟨c, hc, hsame⟩
    · have := (hsame []).symm.trans (hnext [])
      exact absurd this (by cases verbose <;> simp [upcoming, skipBlanks, dropBlanks])
    · obtain rfl := Option.some.inj ((hsame []).symm.trans (hnext []))
      exact absurd hc (by decide)
  | @caret b hb =>
    have := hnext []
    rw [List.append_assoc, List.append_assoc, List.singleton_append, upcoming,
      hb.skip_cons (by cases verbose <;> decide)] at this
    exact absurd this (by simp)

theorem Opening.congr {verbose : Bool} {tl tl' o : List Char} {b : Bracket}
    (h : Opening verbose tl o b) (he : Eases verbose tl tl') : Opening verbose tl' o b := by
  obtain ⟨hn, hl⟩ := h
  exact .intro (hn.congr hl he) (hl.congr he)

theorem Morsel.congr {verbose : Bool} {tl tl' w : List Char} {piece : Piece}
    (h : Morsel verbose tl w piece) (he : Eases verbose tl tl') : Morsel verbose tl' w piece := by
  cases h with
  | operator hop => exact .operator hop
  | named negated hk => exact .named negated hk
  | @opening o b ho hnone =>
    refine .opening (ho.congr he) ?_
    cases o with
    | nil => exact he.ascii hnone
    | cons c o => exact readAscii_of_head ho.head_ne
  | @single u a m hu hm hs hr =>
    refine .single hu hm ?_ (he.range hr)
    obtain ⟨c, x, rfl⟩ := hu.cons
    cases x with
    | cons d x => exact hs
    | nil =>
      simp only [List.cons_append, List.nil_append, startsMember, Bool.and_eq_true,
        bne_iff_ne, ne_eq, Bool.not_eq_true', Bool.and_eq_false_iff, beq_eq_false_iff_ne] at hs
      refine startsMember_of_not hs.1.1 hs.1.2 fun op hop hhead => ?_
      rcases hs.2 with hne | hnone
      · exact hne (he.head c (by simp [hop]) hhead)
      · simp [hop] at hnone
  | range hu hb₁ hb₂ hx hsolid hr hs hafter => exact .range hu hb₁ hb₂ hx hsolid hr hs hafter

/-! ### Runs -/

/-- The text `u` leads from the open bracket `inner`, with `outer` around it, to the end of the
class, which is then `s`. -/
inductive Run (verbose : Bool) : Bracket → List Bracket → List Char → ClassSet → Prop
  | close {b : List Char} {inner : Bracket} (hb : Blank verbose b) :
    Run verbose inner [] (b ++ [']']) inner.close
  | leave {b tl : List Char} {inner o : Bracket} {outer : List Bracket} {s : ClassSet}
    (hb : Blank verbose b) (h : Run verbose (o.push inner.close) outer tl s) :
    Run verbose inner (o :: outer) (b ++ ']' :: tl) s
  | enter {b w tl : List Char} {inner br : Bracket} {outer : List Bracket} {s : ClassSet}
    (hb : Blank verbose b) (hw : Morsel verbose tl w (.opening br))
    (h : Run verbose br (inner :: outer) tl s) : Run verbose inner outer (b ++ (w ++ tl)) s
  | member {b w tl : List Char} {inner : Bracket} {outer : List Bracket} {m s : ClassSet}
    (hb : Blank verbose b) (hw : Morsel verbose tl w (.member m))
    (hsolid : w.head?.all (isSolid verbose)) (h : Run verbose (inner.push m) outer tl s) :
    Run verbose inner outer (b ++ (w ++ tl)) s
  | operator {b w tl : List Char} {inner : Bracket} {outer : List Bracket} {op : ClassOp}
    {s : ClassSet} (hb : Blank verbose b) (hw : Morsel verbose tl w (.operator op))
    (h : Run verbose (inner.operate op) outer tl s) : Run verbose inner outer (b ++ (w ++ tl)) s

/-- Looking ahead in a text does not lead out of it: it ends with a bracket, and there is a
character that counts, and another one if the first is a hyphen. -/
structure Closed (verbose : Bool) (u : List Char) : Prop where
  last : ∃ p, u = p ++ [']']
  first : ∃ b c t, u = b ++ c :: t ∧ Blank verbose b ∧ isSolid verbose c ∧
    (c = '-' → ∃ b' c' t', t = b' ++ c' :: t' ∧ isSolid verbose c')

theorem Closed.prepend {verbose : Bool} {b w tl : List Char} {c : Char} (h : Closed verbose tl)
    (hb : Blank verbose b) (hc : isSolid verbose c)
    (hne : c = '-' → ∃ b' c' t', w ++ tl = b' ++ c' :: t' ∧ isSolid verbose c') :
    Closed verbose (b ++ c :: (w ++ tl)) := by
  obtain ⟨p, rfl⟩ := h.last
  exact ⟨⟨b ++ c :: (w ++ p), by simp⟩, ⟨b, c, _, rfl, hb, hc, hne⟩⟩

theorem Run.closed {verbose : Bool} {inner : Bracket} {outer : List Bracket} {u : List Char}
    {s : ClassSet} (h : Run verbose inner outer u s) : Closed verbose u := by
  induction h with
  | @close b inner hb =>
    exact ⟨⟨b, rfl⟩, ⟨b, ']', [], rfl, hb, by cases verbose <;> decide, by simp⟩⟩
  | @leave b tl inner o outer s hb _ ih =>
    exact ih.prepend (w := []) hb (by cases verbose <;> decide) (by simp)
  | @enter b w tl inner br outer s hb hw _ ih =>
    cases hw with
    | opening ho hnone => exact ih.prepend hb (by cases verbose <;> decide) (by simp)
  | @member b w tl inner outer m s hb hw hsolid _ ih =>
    cases hw with
    | named negated hk => exact ih.prepend hb (by cases verbose <;> decide) (by simp)
    | single hu hm hs hr =>
      obtain ⟨b', c', t', rfl, -, hc', -⟩ := ih.first
      cases hu with
      | @literal c hc => exact ih.prepend hb (by simpa using hsolid) fun _ => ⟨b', c', t', rfl, hc'⟩
      | escape hspells => exact ih.prepend hb (by simpa using hsolid) (by simp)
    | @range u b₁ b₂ x a b r hu hb₁ hb₂ hx _ hr hs hafter =>
      obtain ⟨c, z, rfl⟩ := hu.cons
      refine ih.prepend hb (by simpa using hsolid) fun _ => ⟨z ++ b₁, '-', b₂ ++ x ++ tl, ?_, ?_⟩
      · simp
      · cases verbose <;> decide
  | @operator b w tl inner outer op s hb hw _ ih =>
    cases hw with
    | @operator c op hop =>
      have hc : isSolid verbose c := isSolid_of_operator? hop
      exact ih.prepend (w := [c]) hb hc fun _ => ⟨[], c, tl, rfl, hc⟩

theorem readAscii_append {p x : List Char} :
    readAscii (p ++ [']'] ++ x) = none ↔ readAscii (p ++ [']']) = none := by
  constructor
  · intro h
    cases hread : readAscii (p ++ [']']) with
    | none => rfl
    | some r =>
      obtain ⟨n, k, negated, hk, htext, -⟩ := readAscii_sound (hread : _ = some (r.1, r.2))
      rw [htext, List.append_assoc, readAscii_complete hk] at h
      exact absurd h (by simp)
  · intro h
    cases hread : readAscii (p ++ [']'] ++ x) with
    | none => rfl
    | some r =>
      obtain ⟨n, k, negated, hk, htext, -⟩ := readAscii_sound (hread : _ = some (r.1, r.2))
      -- The name ends before the first closing bracket, so the part before `x` holds all of it.
      have hname : named negated n = (':' :: (caret negated ++ (n ++ [':']))) ++ [']'] := by
        simp [named]
      have hfree : ']' ∉ ':' :: (caret negated ++ (n ++ [':'])) := by
        intro hmem
        simp only [List.mem_cons, List.mem_append, List.not_mem_nil, or_false, caret] at hmem
        rcases hmem with hmem | hmem | hmem | hmem
        · exact absurd hmem (by decide)
        · cases negated <;> simp at hmem
        · exact absurd (isLower_of_asciiClass? hk ']' hmem) (by decide)
        · exact absurd hmem (by decide)
      rw [hname] at htext
      generalize hq : ':' :: (caret negated ++ (n ++ [':'])) = q at hname hfree htext
      rw [List.append_assoc, List.append_assoc, List.append_eq_append_iff] at htext
      have hprefix : ∃ y, p ++ [']'] = named negated n ++ y := by
        rcases htext with ⟨a, rfl, ha⟩ | ⟨a, rfl, ha⟩
        · cases a with
          | nil => exact ⟨[], by rw [hname]; simp⟩
          | cons c a =>
            obtain ⟨rfl, -⟩ := List.cons.inj ha
            exact absurd (by simp) hfree
        · cases a with
          | nil => exact ⟨[], by rw [hname]; simp⟩
          | cons c a =>
            obtain ⟨rfl, -⟩ := List.cons.inj ha
            exact ⟨a ++ [']'], by rw [hname]; simp⟩
      obtain ⟨y, hy⟩ := hprefix
      rw [hy, readAscii_complete hk] at h
      exact absurd h (by simp)

namespace Closed

variable {verbose : Bool} {u : List Char}

theorem upcoming_append (h : Closed verbose u) (x : List Char) :
    upcoming verbose (u ++ x) = upcoming verbose u := by
  obtain ⟨b, c, t, rfl, hb, hc, -⟩ := h.first
  rw [upcoming, upcoming, List.append_assoc, List.cons_append, hb.skip_cons hc, hb.skip_cons hc]
  rfl

theorem rangesAt_append (h : Closed verbose u) (x : List Char) :
    rangesAt verbose (u ++ x) = rangesAt verbose u := by
  obtain ⟨b, c, t, rfl, hb, hc, hne⟩ := h.first
  have hleft : skipBlanks verbose (b ++ c :: t ++ x) = c :: (t ++ x) := by
    rw [List.append_assoc, List.cons_append, hb.skip_cons hc]
  have hright : skipBlanks verbose (b ++ c :: t) = c :: t := hb.skip_cons hc t
  by_cases hhyphen : c = '-'
  · obtain ⟨b', c', t', rfl, hc'⟩ := hne hhyphen
    obtain ⟨d, hd⟩ := afterHyphen_append hc' b'
    subst hhyphen
    unfold rangesAt
    rw [hleft, hright]
    simp only [List.append_assoc, List.cons_append, hd]
  · unfold rangesAt
    rw [hleft, hright]
    split
    · contradiction
    · rename_i heq
      exact absurd (List.cons.inj heq).1 hhyphen
    · split
      · contradiction
      · rename_i heq
        exact absurd (List.cons.inj heq).1 hhyphen
      · rfl

theorem ne_nil (h : Closed verbose u) : u ≠ [] := by
  obtain ⟨p, rfl⟩ := h.last
  simp

theorem head_append (h : Closed verbose u) (x : List Char) : (u ++ x).head? = u.head? := by
  obtain ⟨c, t, rfl⟩ := List.exists_cons_of_ne_nil h.ne_nil
  rfl

theorem ascii_append (h : Closed verbose u) (x : List Char) :
    readAscii (u ++ x) = none ↔ readAscii u = none := by
  obtain ⟨p, rfl⟩ := h.last
  exact readAscii_append

theorem eases_append (h : Closed verbose u) (x : List Char) : Eases verbose u (u ++ x) where
  head c _ hc := by rwa [h.head_append] at hc
  range hr := by rwa [h.rangesAt_append]
  next c hc := ⟨c, by rwa [h.upcoming_append], fun _ => rfl⟩
  ascii hn := (h.ascii_append x).mpr hn

theorem append_eases (h : Closed verbose u) (x : List Char) : Eases verbose (u ++ x) u where
  head c _ hc := by rwa [h.head_append]
  range hr := by rwa [h.rangesAt_append] at hr
  next c hc := ⟨c, by rwa [h.upcoming_append] at hc, fun _ => rfl⟩
  ascii hn := (h.ascii_append x).mp hn

end Closed

/-! ### The reader follows runs -/

theorem read_eq (verbose : Bool) (inner : Bracket) (outer : List Bracket) (cs : List Char) :
    read verbose inner outer cs =
      match readPiece verbose (skipBlanks verbose cs), outer with
      | none, _ => none
      | some (.member item, rest), outer => read verbose (inner.push item) outer rest
      | some (.opening b, rest), outer => read verbose b (inner :: outer) rest
      | some (.operator op, rest), outer => read verbose (inner.operate op) outer rest
      | some (.closing, rest), b :: outer => read verbose (b.push inner.close) outer rest
      | some (.closing, rest), [] => some (inner.close, rest) := by
  rw [read]
  split
  · rename_i heq
    rw [heq]
  · rename_i piece rest heq
    cases piece <;> cases outer <;> simp only [heq]

theorem read_congr {verbose : Bool} {cs cs' : List Char}
    (h : skipBlanks verbose cs = skipBlanks verbose cs') (inner : Bracket)
    (outer : List Bracket) : read verbose inner outer cs = read verbose inner outer cs' := by
  rw [read_eq, read_eq, h]

theorem head_solid {verbose : Bool} {cs w tl : List Char}
    (h : skipBlanks verbose cs = w ++ tl) : w.head?.all (isSolid verbose) := by
  cases w with
  | nil => rfl
  | cons c w => simpa using isSolid_of_skipBlanks h

theorem Morsel.ne_nil {verbose : Bool} {tl w : List Char} {piece : Piece}
    (h : Morsel verbose tl w piece) : w ≠ [] := by
  cases h with
  | operator _ | named _ _ | opening _ _ => simp
  | single hu _ _ _ =>
    obtain ⟨c, x, rfl⟩ := hu.cons
    simp
  | range hu _ _ _ _ _ _ _ =>
    obtain ⟨c, x, rfl⟩ := hu.cons
    simp

theorem read_sound {verbose : Bool} {inner : Bracket} {outer : List Bracket} {cs rest : List Char}
    {s : ClassSet} (h : read verbose inner outer cs = some (s, rest)) :
    ∃ u, cs = u ++ rest ∧ Run verbose inner outer u s := by
  induction hn : cs.length using Nat.strongRecOn generalizing inner outer cs with
  | ind n ih =>
    rw [read_eq] at h
    cases hpiece : readPiece verbose (skipBlanks verbose cs) with
    | none => exact absurd h (by simp [hpiece])
    | some p =>
    obtain ⟨piece, mid⟩ := p
    rw [hpiece] at h
    rcases readPiece_sound hpiece with ⟨rfl, hskip⟩ | ⟨w, tl, hskip, hmid, hw⟩
    · obtain ⟨b, rfl, hb, -⟩ := skipBlanks_split_cons hskip
      cases outer with
      | nil =>
        obtain ⟨rfl, rfl⟩ := Prod.mk.inj (Option.some.inj h)
        exact ⟨b ++ [']'], by simp, .close hb⟩
      | cons o outer =>
        obtain ⟨u, rfl, hu⟩ := ih mid.length (by simp [← hn]; omega) h rfl
        exact ⟨b ++ ']' :: u, by simp, .leave hb hu⟩
    · have hne := hw.ne_nil
      obtain ⟨b, rfl, hb⟩ : ∃ b, cs = b ++ (w ++ tl) ∧ Blank verbose b := by
        rw [← hskip]
        exact skipBlanks_split _ _ (by simp [hskip, hne])
      have hlt : tl.length < n := by
        have := List.length_pos_iff.mpr hne
        simp only [List.length_append] at hn
        omega
      cases piece with
      | member m =>
        obtain ⟨u, rfl, hu⟩ := ih tl.length hlt ((read_congr hmid.skip _ _).symm.trans h) rfl
        exact ⟨b ++ (w ++ u), by simp,
          .member hb (hw.congr (hu.closed.append_eases rest)) (head_solid hskip) hu⟩
      | opening br =>
        obtain ⟨u, rfl, hu⟩ := ih tl.length hlt ((read_congr hmid.skip _ _).symm.trans h) rfl
        exact ⟨b ++ (w ++ u), by simp, .enter hb (hw.congr (hu.closed.append_eases rest)) hu⟩
      | operator op =>
        obtain ⟨u, rfl, hu⟩ := ih tl.length hlt ((read_congr hmid.skip _ _).symm.trans h) rfl
        exact ⟨b ++ (w ++ u), by simp, .operator hb (hw.congr (hu.closed.append_eases rest)) hu⟩
      | closing => cases hw

/-- A piece is read after blanks, whatever comes after the class. -/
theorem Morsel.read {verbose : Bool} {b tl w : List Char} {piece : Piece} (hb : Blank verbose b)
    (hw : Morsel verbose tl w piece) (hsolid : w.head?.all (isSolid verbose))
    (hclosed : Closed verbose tl) (x : List Char) :
    ∃ rest, readPiece verbose (skipBlanks verbose (b ++ (w ++ tl) ++ x)) = some (piece, rest) ∧
      Trimmed verbose (tl ++ x) rest := by
  obtain ⟨c, z, rfl⟩ := List.exists_cons_of_ne_nil hw.ne_nil
  have htext : b ++ (c :: z ++ tl) ++ x = b ++ c :: (z ++ (tl ++ x)) := by simp
  rw [htext, hb.skip_cons (by simpa using hsolid)]
  exact readPiece_complete (hw.congr (hclosed.eases_append x))

theorem read_complete {verbose : Bool} {inner : Bracket} {outer : List Bracket} {u : List Char}
    {s : ClassSet} (h : Run verbose inner outer u s) (x : List Char) :
    read verbose inner outer (u ++ x) = some (s, x) := by
  have hbracket : isSolid verbose ']' := by cases verbose <;> decide
  induction h with
  | close hb =>
    rw [read_eq, List.append_assoc, List.singleton_append, hb.skip_cons hbracket]
    rfl
  | leave hb _ ih =>
    rw [read_eq, List.append_assoc, List.cons_append, hb.skip_cons hbracket]
    exact ih
  | enter hb hw hrun ih =>
    have hsolid : isSolid verbose '[' := by cases verbose <;> decide
    obtain ⟨rest, hread, hrest⟩ :=
      hw.read hb (by cases hw; simpa using hsolid) hrun.closed x
    rw [read_eq, hread]
    exact (read_congr hrest.skip _ _).trans ih
  | member hb hw hsolid hrun ih =>
    obtain ⟨rest, hread, hrest⟩ := hw.read hb hsolid hrun.closed x
    rw [read_eq, hread]
    exact (read_congr hrest.skip _ _).trans ih
  | operator hb hw hrun ih =>
    obtain ⟨rest, hread, hrest⟩ := hw.read hb (by
      cases hw with
      | operator hop => simpa using isSolid_of_operator? hop) hrun.closed x
    rw [read_eq, hread]
    exact (read_congr hrest.skip _ _).trans ih

end Gazetteer.Regex.Bracket
