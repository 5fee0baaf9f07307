import Gazetteer.Proofs.Narrowing.Spelling

/-! Classes with their escapes narrowed.

The text of a class in which the escapes are narrowed is read as the class with its one-letter
classes spelled out (`Bracket.Run.asciiOnly`). Pieces end where they ended, because what is put in
the place of an escape continues no piece before it (`Bracket.Closed.eases_asciiFrom`). -/
namespace Gazetteer.Regex

open Pattern (Outline asciiFrom asciiFrom_cons_cases asciiFrom_of_unescaped narrowedHeads
  exists_of_asciiFrom_eq_append unescaped_of_notMem)
open Pattern.Outline (Passes inside)

namespace Bracket

variable {verbose v : Bool} {k n : Nat} {f : Bool}

/-! ### The text behind a piece -/

theorem isSolid_of_narrowedHeads {c : Char} (h : c ∈ narrowedHeads) : isSolid verbose c := by
  simp only [narrowedHeads, List.mem_cons, List.not_mem_nil, or_false] at h
  rcases h with rfl | rfl | rfl | rfl <;> cases verbose <;> decide

theorem slash_notMem_blank {b cs : List Char} (hb : Blank verbose b)
    (ht : Tidy verbose (b ++ cs)) : '\\' ∉ b :=
  fun hmem => absurd ((hb.tidy ht).1 _ hmem) (by decide)

/-- Blanks are copied, and the next character that counts shows what it was. -/
theorem asciiFrom_blank {s : Outline} {b t : List Char} {c : Char} (hb : Blank verbose b)
    (hc : isSolid verbose c) (ht : Tidy verbose (b ++ c :: t)) (he : s.escaped = false) :
    ∃ c' t', asciiFrom v s (b ++ c :: t) = b ++ c' :: t' ∧ isSolid verbose c' ∧
      (c' ∉ narrowedHeads → c' = c ∧ ∃ s', t' = asciiFrom v s' t) := by
  rw [asciiFrom_of_unescaped (unescaped_of_notMem he (slash_notMem_blank hb ht))]
  rcases asciiFrom_cons_cases v (s.after v b) c t with hcopy | ⟨-, d, x, hx, hd⟩
  · exact ⟨c, _, by rw [hcopy], hc, fun _ => ⟨rfl, _, rfl⟩⟩
  · exact ⟨d, x, by rw [hx], isSolid_of_narrowedHeads hd, fun hnot => absurd hd hnot⟩

theorem dropToContent_asciiFrom {s : Outline} {t : List Char} {d : Char} (hd : d ∈ [']', '-'])
    (ht : Tidy true t) (h : (dropToContent false t).head? = some d) :
    (dropToContent false (asciiFrom v s t)).head? = some d := by
  induction t generalizing s with
  | nil => exact absurd h (by simp [dropToContent])
  | cons c t ih =>
    have hhash : c ≠ '#' := by
      rintro rfl
      exact absurd (ht rfl) (by simp [bare])
    rw [dropToContent] at h
    rcases asciiFrom_cons_cases v s c t with hcopy | ⟨rfl, -⟩
    · rw [hcopy, dropToContent]
      by_cases hs : Unicode.isSpace c
      · rw [if_pos hs] at h ⊢
        have hslash : c ≠ '\\' := by
          rintro rfl
          exact absurd hs (by decide)
        exact ih (ht.cons hslash) h
      · rw [if_neg hs, if_neg (by simpa using hhash)] at h ⊢
        exact h
    · rw [if_neg (by decide), if_neg (by decide), List.head?_cons] at h
      obtain rfl := Option.some.inj h
      exact absurd hd (by decide)

/-- A character that decides about a hyphen still does. -/
theorem afterHyphen_asciiFrom {s : Outline} {t : List Char} {d : Char} (hd : d ∈ [']', '-'])
    (ht : Tidy verbose t) (h : afterHyphen verbose t = some d) :
    afterHyphen verbose (asciiFrom v s t) = some d := by
  have hhead : ∀ x, t = d :: x → (asciiFrom v s t).head? = some d := by
    rintro x rfl
    rcases asciiFrom_cons_cases v s d x with hcopy | ⟨rfl, -⟩
    · rw [hcopy]
      rfl
    · exact absurd hd (by decide)
  cases verbose with
  | false =>
    obtain ⟨x, hx⟩ := List.head?_eq_some_iff.mp h
    exact hhead x hx
  | true =>
    have hcontent : (dropToContent false t).head? = some d := by
      cases hdrop : (dropToContent false t).head? with
      | some e =>
        rw [afterHyphen, if_pos rfl, hdrop] at h
        exact h
      | none =>
        rw [afterHyphen, if_pos rfl, hdrop] at h
        obtain ⟨x, rfl⟩ := List.head?_eq_some_iff.mp h
        simp only [List.mem_cons, List.not_mem_nil, or_false] at hd
        rcases hd with rfl | rfl <;>
          · rw [dropToContent, if_neg (by decide), if_neg (by decide)] at hdrop
            exact absurd hdrop (by simp)
    rw [afterHyphen, if_pos rfl, dropToContent_asciiFrom hd ht hcontent]
    rfl

theorem rangesAt_asciiFrom {tl : List Char} {s : Outline} (h : Closed verbose tl)
    (ht : Tidy verbose tl) (he : s.escaped = false) (hr : rangesAt verbose tl = false) :
    rangesAt verbose (asciiFrom v s tl) = false := by
  obtain ⟨b, c, t, rfl, hb, hc, -⟩ := h.first
  obtain ⟨c', t', htext, hc', hsame⟩ := asciiFrom_blank (v := v) hb hc ht he
  rw [htext]
  unfold rangesAt at hr ⊢
  rw [hb.skip_cons hc] at hr
  rw [hb.skip_cons hc']
  by_cases hhyphen : c' = '-'
  · subst hhyphen
    obtain ⟨rfl, s', rfl⟩ := hsame (by decide)
    simp only [Bool.not_eq_false', Bool.or_eq_true, beq_iff_eq] at hr ⊢
    have htidy : Tidy verbose t := (hb.tidy ht).2.cons (by decide)
    exact hr.imp (afterHyphen_asciiFrom (by simp) htidy) (afterHyphen_asciiFrom (by simp) htidy)
  · split
    · contradiction
    · rename_i heq
      exact absurd (List.cons.inj heq).1 hhyphen
    · rfl

theorem notMem_narrowedHeads_of_named {m : List Char} {ks : AsciiClass} (negated : Bool)
    (h : asciiClass? m = some ks) : ∀ c ∈ named negated m, c ∉ narrowedHeads := by
  intro c hc
  simp only [named, caret, List.mem_cons, List.mem_append, List.not_mem_nil, or_false] at hc
  rcases hc with rfl | hc | hc | rfl | rfl
  · decide
  · cases negated with
    | false => exact absurd hc List.not_mem_nil
    | true =>
      obtain rfl := List.mem_singleton.mp hc
      decide
  · intro hmem
    have hlower := isLower_of_asciiClass? h c hc
    simp only [narrowedHeads, List.mem_cons, List.not_mem_nil, or_false] at hmem
    rcases hmem with rfl | rfl | rfl | rfl <;> exact absurd hlower (by decide)
  · decide
  · decide

/-- The name of a class stands only where it stood. -/
theorem readAscii_asciiFrom {tl : List Char} {s : Outline} (h : readAscii tl = none) :
    readAscii (asciiFrom v s tl) = none := by
  cases hread : readAscii (asciiFrom v s tl) with
  | none => rfl
  | some r =>
    obtain ⟨m, ks, negated, hk, htext, -⟩ := readAscii_sound (hread : _ = some (r.1, r.2))
    obtain ⟨y, rfl, -⟩ :=
      exists_of_asciiFrom_eq_append (notMem_narrowedHeads_of_named negated hk) htext
    rw [readAscii_complete hk] at h
    exact absurd h (by simp)

/-- What is put in the place of an escape continues no piece before it. -/
theorem Closed.eases_asciiFrom {tl : List Char} {s : Outline} (h : Closed verbose tl)
    (ht : Tidy verbose tl) (he : s.escaped = false) : Eases verbose tl (asciiFrom v s tl) where
  head c hc hhead := by
    obtain ⟨x, hx⟩ := List.head?_eq_some_iff.mp hhead
    have hnot : ∀ d ∈ [c], d ∉ narrowedHeads := by
      intro d hd
      obtain rfl := List.mem_singleton.mp hd
      unfold operator? at hc
      split at hc <;> first | decide | exact absurd hc (by simp)
    obtain ⟨y, rfl, -⟩ := exists_of_asciiFrom_eq_append (w := [c]) hnot hx
    rfl
  range := rangesAt_asciiFrom h ht he
  next c hnext := by
    obtain ⟨b, d, t, rfl, hb, hd, -⟩ := h.first
    obtain ⟨c', t', htext, hc', hsame⟩ := asciiFrom_blank (v := v) hb hd ht he
    rw [upcoming, hb.skip_cons hd, List.head?_cons, Option.some.injEq] at hnext
    subst hnext
    refine ⟨c', by rw [htext, upcoming, hb.skip_cons hc']; rfl, fun hmem => (hsame ?_).1⟩
    simp only [List.mem_cons, List.not_mem_nil, or_false] at hmem
    rcases hmem with rfl | rfl | rfl <;> decide
  ascii := readAscii_asciiFrom

/-! ### Open brackets -/

/-- The bracket with the one-letter classes in it spelled out. -/
def asciiOnly (b : Bracket) : Bracket where
  negated := b.negated
  pending := b.pending.map fun (op, left) => (op, .ofItems left.pieces)
  items := (b.items.reverse.flatMap ClassSet.pieces).reverse

theorem content_asciiOnly (b : Bracket) : b.asciiOnly.content = .ofItems b.content.pieces := by
  obtain ⟨negated, pending, items⟩ := b
  have hright : ClassSet.ofItems (items.reverse.flatMap ClassSet.pieces).reverse.reverse =
      .ofItems (ClassSet.ofItems items.reverse).pieces := by
    rw [List.reverse_reverse, ClassSet.pieces_ofItems]
  cases pending with
  | none => exact hright
  | some p => exact congrArg (ClassSet.binary p.1 (.ofItems p.2.pieces)) hright

theorem close_asciiOnly (b : Bracket) : b.asciiOnly.close = .ofItems b.close.pieces :=
  congrArg (ClassSet.bracketed b.negated) (content_asciiOnly b)

theorem push_asciiOnly (b : Bracket) (m : ClassSet) :
    (b.push m).asciiOnly = b.asciiOnly.pushAll m.pieces := by
  have hitems : ((m :: b.items).reverse.flatMap ClassSet.pieces).reverse =
      m.pieces.reverse ++ (b.items.reverse.flatMap ClassSet.pieces).reverse := by
    rw [List.reverse_cons, List.flatMap_append, List.flatMap_singleton, List.reverse_append]
  exact congrArg (Bracket.mk b.negated _) hitems

theorem operate_asciiOnly (b : Bracket) (op : ClassOp) :
    (b.operate op).asciiOnly = b.asciiOnly.operate op :=
  congrArg (fun left => Bracket.mk b.negated (some (op, left)) []) (content_asciiOnly b).symm

/-- The members that come first are characters. -/
theorem Opening.asciiOnly_eq {o tl : List Char} {b : Bracket} (h : Opening verbose tl o b) :
    b.asciiOnly = b := by
  obtain @⟨_, _, negated, items, _, hl⟩ := h
  have hitems : items.flatMap ClassSet.pieces = items := by
    cases hl with
    | bracket _ _ => rfl
    | @hyphens _ taken _ _ _ _ _ _ =>
      rw [List.flatMap_map]
      exact List.flatMap_pure_eq_map ..
  exact congrArg (Bracket.mk negated none) (by rw [List.reverse_reverse, hitems])

/-! ### Members -/

theorem Item.copied {u cs : List Char} {a : Ast} (h : Item verbose u a) (hp : a.hasPlainName)
    (hc : ∀ c, u = [c] → c ∉ ['[', ']']) (ht : Tidy verbose (u ++ cs)) (hm : isMember a)
    (hk : ∀ ks negated, a ≠ .set (.escape ks negated)) :
    asciiFrom v (inside k (n + 1) f) (u ++ cs) =
      u ++ asciiFrom v ((inside k (n + 1) f).after v u) cs := by
  cases h with
  | @literal c hslash =>
    exact asciiFrom_of_unescaped (unescaped_of_notMem rfl (by simpa using Ne.symm hslash)) cs
  | @escape e _ hspells =>
    obtain ⟨c, z, -, rfl, -, -⟩ := hspells.shape
    have hcopy : Pattern.asciiSpelling c = none := by
      rcases hspells.narrowed with ⟨hnone, -⟩ | ⟨ks, negated, -, -, rfl⟩ | ⟨-, ⟨edge, rfl⟩, -⟩
      · exact hnone
      · exact absurd rfl (hk ks negated)
      · exact absurd hm (by simp [isMember, member?])
    have hslash : '\\' ∉ z := fun hmem => (hspells.tidy hp ht).1 _ hmem (by simp)
    rw [List.cons_append, List.cons_append, Pattern.asciiFrom_escape rfl rfl,
      Escape.asciiEscape_of_none hcopy, asciiFrom_of_unescaped (unescaped_of_notMem rfl hslash)]
    rfl

theorem pieces_of_member? {u : List Char} {a : Ast} {m : ClassSet} (hu : Item verbose u a)
    (hm : member? a = some m) (hk : ∀ ks negated, a ≠ .set (.escape ks negated)) :
    m.pieces = [m] := by
  cases hu with
  | literal _ => exact Option.some.inj hm ▸ rfl
  | escape hspells =>
    obtain ⟨c, z, -, rfl, -, -⟩ := hspells.shape
    cases hspells.meaning with
    | literal => exact Option.some.inj hm ▸ rfl
    | assertion _ => exact absurd hm (by simp [member?])
    | oneLetter ks negated => exact absurd rfl (hk ks negated)
    | property => exact Option.some.inj hm ▸ rfl

/-- A one-letter class is read as its members, or as a class inside the class. -/
theorem Item.run_spelled {u tl tl' : List Char} {ks : EscapeClass} {negated : Bool}
    {inner : Bracket} {outer : List Bracket} {s : ClassSet}
    (hu : Item verbose u (.set (.escape ks negated))) (hr : rangesAt verbose tl' = false)
    (htl : tl' = asciiFrom v ((inside k (n + 1) f).after v u) tl)
    (h : Run verbose (inner.pushAll (ClassSet.escape ks negated).pieces) outer tl' s) :
    Run verbose inner outer (asciiFrom v (inside k (n + 1) f) (u ++ tl)) s := by
  cases hu with
  | escape hspells =>
    obtain ⟨c, z, -, rfl, -, -⟩ := hspells.shape
    rcases hspells.narrowed with ⟨-, hnone⟩ | ⟨ks', negated', rfl, rfl, heq⟩ | ⟨-, ⟨edge, heq⟩, -⟩
    · exact absurd rfl (hnone ks negated)
    · cases heq
      have htext : asciiFrom v (inside k (n + 1) f) (['\\', Escape.letter ks negated] ++ tl) =
          Pattern.asciiEscape true (Escape.letter ks negated) ++ tl' :=
        (Pattern.asciiFrom_escape rfl rfl _ tl).trans (congrArg (_ ++ ·) htl.symm)
      rw [htext]
      cases negated with
      | false =>
        rw [EscapeClass.asciiEscape_member]
        exact .spelled ks h hr
      | true =>
        rw [EscapeClass.asciiEscape_member_negated]
        exact .spelled_negated ks h
    · exact absurd heq (by simp)

theorem slash_notMem_named {m : List Char} {ks : AsciiClass} (negated : Bool)
    (h : asciiClass? m = some ks) : '\\' ∉ '[' :: named negated m := by
  rw [named_eq]
  intro hmem
  simp only [List.mem_cons (a := '\\') (b := '['), List.mem_append (s := _ :: _),
    List.mem_singleton] at hmem
  rcases hmem with hmem | hmem | hmem
  · exact absurd hmem (by decide)
  · exact named_chars negated h _ hmem (by simp)
  · exact absurd hmem (by decide)

/-- A range is copied: its ends are single characters. -/
theorem copied_range {u b₁ b₂ x tl : List Char} {a b : Ast} {r : ClassSet}
    (hu : Item verbose u a) (hb₁ : Blank verbose b₁) (hb₂ : Blank verbose b₂)
    (hx : Item verbose x b) (hsolid : x.head?.all (isSolid verbose)) (hr : range? a b = some r)
    (hhead : ∀ c, u = [c] → c ∉ ['[', ']'])
    (ha : (Piece.member r).agrees verbose (u ++ (b₁ ++ '-' :: (b₂ ++ x)) ++ tl))
    (ht : Tidy verbose (u ++ (b₁ ++ '-' :: (b₂ ++ x)) ++ tl)) :
    asciiFrom v (inside k (n + 1) f) (u ++ (b₁ ++ '-' :: (b₂ ++ x)) ++ tl) =
      u ++ (b₁ ++ '-' :: (b₂ ++ x)) ++ asciiFrom v
        ((inside k (n + 1) f).after v (u ++ (b₁ ++ '-' :: (b₂ ++ x)))) tl := by
  have hend := range_agrees hu hb₁ hb₂ hsolid hr ha
  obtain ⟨hpa, hpb, -⟩ := hasPlainName_of_range? hr
  obtain ⟨hma, hmb⟩ := isMember_of_range? hr
  have hka : ∀ ks negated, a ≠ .set (.escape ks negated) := by
    rintro ks negated rfl
    exact absurd hr (by simp [range?])
  have hkb : ∀ ks negated, b ≠ .set (.escape ks negated) := by
    rintro ks negated rfl
    cases a <;> exact absurd hr (by simp [range?])
  have hassoc : ∀ y, u ++ (b₁ ++ '-' :: (b₂ ++ x)) ++ y = u ++ (b₁ ++ '-' :: b₂ ++ (x ++ y)) :=
    fun y => by simp
  rw [hassoc] at ht
  obtain ⟨f₁, h₁, -, ht'⟩ := hu.passes (v := v) (k := k) (n := n) (f := f) hpa hhead ht
  rw [List.append_assoc] at ht'
  obtain ⟨hs₁, ht'⟩ := hb₁.tidy ht'
  obtain ⟨hs₂, ht'⟩ := hb₂.tidy (ht'.cons (by decide))
  have hslash : '\\' ∉ b₁ ++ '-' :: b₂ := by
    intro hmem
    simp only [List.mem_append, List.mem_cons] at hmem
    rcases hmem with hmem | hmem | hmem
    · exact absurd (hs₁ _ hmem) (by decide)
    · exact absurd hmem (by decide)
    · exact absurd (hs₂ _ hmem) (by decide)
  have hmiddle : Passes v (inside k (n + 1) f₁) (b₁ ++ '-' :: b₂) (inside k (n + 1) false) := by
    have hblank := passes_spaces (v := v) (k := k) (n := n) (f := false) hs₂
    refine (passes_spaces hs₁).append (.cons_none (next_inside (by decide)) ?_)
    simpa using hblank
  have hafter : (inside k (n + 1) f).after v (u ++ (b₁ ++ '-' :: (b₂ ++ x))) =
      (inside k (n + 1) false).after v x := by
    rw [show u ++ (b₁ ++ '-' :: (b₂ ++ x)) = u ++ (b₁ ++ '-' :: b₂ ++ x) by simp,
      Outline.after_append, Outline.after_append, h₁.after, hmiddle.after]
  rw [hafter, hassoc, hassoc, hu.copied hpa hhead ht hma hka, h₁.after,
    hmiddle.asciiFrom rfl hslash, hx.copied hpb hend ht' hmb hkb]

/-- A member is read as its pieces. -/
theorem Morsel.run_asciiOnly {w tl tl' : List Char} {m s : ClassSet} {inner : Bracket}
    {outer : List Bracket} (h : Morsel verbose tl w (.member m))
    (ha : (Piece.member m).agrees verbose (w ++ tl)) (ht : Tidy verbose (w ++ tl))
    (hsolid : w.head?.all (isSolid verbose)) (he : Eases verbose tl tl')
    (htl : tl' = asciiFrom v ((inside k (n + 1) f).after v w) tl)
    (hrun : Run verbose (inner.pushAll m.pieces) outer tl' s) :
    Run verbose inner outer (asciiFrom v (inside k (n + 1) f) (w ++ tl)) s := by
  cases h with
  | named negated hk =>
    rw [asciiFrom_of_unescaped (unescaped_of_notMem rfl (slash_notMem_named negated hk)), ← htl]
    exact .member (b := []) (.nil _) (.named negated hk) hsolid hrun
  | @single u a m hu hm hs hr =>
    by_cases hk : ∃ ks negated, a = .set (.escape ks negated)
    · obtain ⟨ks, negated, rfl⟩ := hk
      obtain rfl := Option.some.inj hm
      exact hu.run_spelled (he.range hr) htl hrun
    · have hk : ∀ ks negated, a ≠ .set (.escape ks negated) := fun ks negated heq =>
        hk ⟨ks, negated, heq⟩
      rw [pieces_of_member? hu hm hk] at hrun
      have hplain := hasPlainName_of_member? hm (hasPlainName_of_agrees ha)
      have hhead : ∀ c, w = [c] → c ∉ ['[', ']'] := by
        rintro c rfl
        exact startsMember_head hs
      rw [hu.copied hplain hhead ht (by simp [isMember, hm]) hk, ← htl]
      exact .member (b := []) (.nil _) ((Morsel.single hu hm hs hr).congr he) hsolid hrun
  | @range u b₁ b₂ x a b r hu hb₁ hb₂ hx hsolid' hr hs hafter =>
    have hhead : ∀ c, u = [c] → c ∉ ['[', ']'] := by
      rintro c rfl
      exact startsMember_head hs
    rw [copied_range hu hb₁ hb₂ hx hsolid' hr hhead ha ht, ← htl]
    obtain ⟨-, -, first, last, rfl⟩ := hasPlainName_of_range? hr
    have hw : Morsel _ tl' _ _ := .range hu hb₁ hb₂ hx hsolid' hr hs hafter
    exact .member (b := []) (.nil _) hw hsolid hrun

/-! ### The whole class -/

/-- Blanks before the rest of a class belong to it. -/
theorem Run.blank {b u : List Char} {inner : Bracket} {outer : List Bracket} {s : ClassSet}
    (hb : Blank verbose b) (h : Run verbose inner outer u s) :
    Run verbose inner outer (b ++ u) s := by
  cases h with
  | close hb' =>
    rw [← List.append_assoc]
    exact .close (hb.append hb')
  | leave hb' h =>
    rw [← List.append_assoc]
    exact .leave (hb.append hb') h
  | enter hb' hw h =>
    rw [← List.append_assoc]
    exact .enter (hb.append hb') hw h
  | member hb' hw hsolid h =>
    rw [← List.append_assoc]
    exact .member (hb.append hb') hw hsolid h
  | operator hb' hw h =>
    rw [← List.append_assoc]
    exact .operator (hb.append hb') hw h

theorem Run.exists_bracketed {u : List Char} {inner : Bracket} {outer : List Bracket}
    {s : ClassSet} (h : Run verbose inner outer u s) :
    ∃ negated content, s = .bracketed negated content := by
  induction h with
  | close _ => exact ⟨_, _, rfl⟩
  | leave _ _ ih | enter _ _ _ ih | member _ _ _ _ ih | operator _ _ _ ih => exact ih

theorem push_close_asciiOnly (o inner : Bracket) :
    (o.push inner.close).asciiOnly = o.asciiOnly.push inner.asciiOnly.close := by
  rw [push_asciiOnly, close_asciiOnly]
  rfl

/-- The rest of a class is read as what was spelled out of it. -/
theorem Run.asciiOnly {inner : Bracket} {outer : List Bracket} {u : List Char} {s : ClassSet}
    (h : Run verbose inner outer u s) (ha : agrees verbose outer.length u) (ht : Tidy verbose u)
    (hf : f = true → leadsForScan u = false) :
    Run verbose inner.asciiOnly (outer.map Bracket.asciiOnly)
      (asciiFrom v (inside k (outer.length + 1) f) u) (.ofItems s.pieces) := by
  induction h generalizing f with
  | @close b inner hb =>
    have hslash : '\\' ∉ b ++ [']'] := by
      simpa using slash_notMem_blank hb ht
    have hcopy := (close_passes (v := v) (k := k) (n := 0) hb ht hf).1.asciiFrom rfl hslash []
    rw [List.append_nil] at hcopy
    rw [List.length_nil, hcopy, ← close_asciiOnly]
    exact (List.append_nil (b ++ [']'])).symm ▸ Run.close hb
  | @leave b tl inner o outer s hb hrun ih =>
    have hslash : '\\' ∉ b ++ [']'] := by
      simpa using slash_notMem_blank hb ht
    obtain ⟨hclose, htidy⟩ := close_passes (v := v) (k := k) (n := outer.length + 1)
      hb ht hf
    rw [agrees_eq, hb.skip_cons (by cases verbose <;> decide)] at ha
    have hrest := ih ha htidy (f := false) (by simp)
    rw [push_close_asciiOnly] at hrest
    have hcopy := hclose.asciiFrom rfl hslash tl
    rw [List.append_assoc, List.append_assoc] at hcopy
    rw [List.length_cons]
    exact hcopy ▸ Run.leave hb hrest
  | @enter b w tl inner br outer s hb hw hrun ih =>
    have hsolid : w.head?.all (isSolid verbose) := by
      cases hw
      cases verbose <;> rfl
    obtain ⟨hpiece, hrest⟩ := agrees_step hb hw hsolid hrun.closed ha
    obtain ⟨f₁, hblank, hf₁, ht₁⟩ := passes_blank (v := v) (k := k) hb ht hf
    rw [hblank.asciiFrom rfl (slash_notMem_blank hb ht)]
    cases hw with
    | @opening o _ ho hnone =>
      have halike : opensAlike verbose (o ++ tl) := by simpa [Piece.agrees] using hpiece
      have ht₂ : Tidy verbose (o ++ tl) := Tidy.cons (c := '[') (by decide) ht₁
      obtain ⟨f₂, hopen, hf₂, ht₃, hslash⟩ :=
        ho.passes (v := v) (k := k) (n := outer.length + 1) halike ht₂
      have hopen' : Passes v (inside k (outer.length + 1) f₁) ('[' :: o)
          (inside k (outer.length + 1 + 1) f₂) := .cons_none rfl hopen
      have hslash' : '\\' ∉ '[' :: o := by
        simpa using hslash
      rw [hopen'.asciiFrom rfl hslash']
      have hinner := ih hrest ht₃ hf₂
      rw [ho.asciiOnly_eq] at hinner
      exact .enter hb ((Morsel.opening ho hnone).congr (hrun.closed.eases_asciiFrom ht₃ rfl)) hinner
  | @member b w tl inner outer m s hb hw hsolid hrun ih =>
    obtain ⟨hpiece, hrest⟩ := agrees_step hb hw hsolid hrun.closed ha
    obtain ⟨f₁, hblank, hf₁, ht₁⟩ := passes_blank (v := v) (k := k) hb ht hf
    obtain ⟨f₂, hmember, hf₂, ht₂⟩ :=
      hw.passes_member (v := v) (k := k) (n := outer.length) hpiece ht₁ hf₁
    rw [hblank.asciiFrom rfl (slash_notMem_blank hb ht)]
    have hinner := ih hrest ht₂ hf₂
    rw [push_asciiOnly] at hinner
    exact .blank hb (hw.run_asciiOnly hpiece ht₁ hsolid (hrun.closed.eases_asciiFrom ht₂ rfl)
      (by rw [hmember.after]) hinner)
  | @operator b w tl inner outer op s hb hw hrun ih =>
    cases hw with
    | @operator c _ hop =>
      have hsolid : isSolid verbose c := isSolid_of_operator? hop
      obtain ⟨-, hrest⟩ := agrees_step hb (.operator hop) (by simpa using hsolid) hrun.closed ha
      obtain ⟨f₁, hblank, hf₁, ht₁⟩ := passes_blank (v := v) (k := k) hb ht hf
      obtain ⟨htwo, hslash⟩ := passes_operator (v := v) (k := k) (n := outer.length) (f := f₁) hop
      have hslash' : '\\' ∉ [c, c] := by
        simpa using Ne.symm hslash
      rw [hblank.asciiFrom rfl (slash_notMem_blank hb ht), htwo.asciiFrom rfl hslash']
      have hinner := ih hrest ((ht₁.cons hslash).cons hslash) (f := false) (by simp)
      rw [operate_asciiOnly] at hinner
      exact .operator hb (.operator hop) hinner

end Bracket

/-- A class with its escapes narrowed is a class, whatever comes after it. -/
theorem Token.lexeme_asciiClass {verbose : Bool} (scanned : Bool) {o u : List Char} {b : Bracket}
    {s : ClassSet} (ho : Bracket.Opening verbose u o b) (hu : Bracket.Run verbose b [] u s)
    (ha : Bracket.classAgrees verbose (o ++ u)) (k : Nat) :
    ∃ w, (∀ tl, asciiFrom scanned (.level k) ('[' :: (o ++ u) ++ tl) =
        '[' :: w ++ asciiFrom scanned (.level k) tl) ∧
      ∀ tl, Lexeme verbose tl ('[' :: w) (.atom (.set (.ofItems s.pieces))) := by
  obtain ⟨hopens, htidy, hagrees⟩ := Bracket.agrees_of_classAgrees ho ha
  obtain ⟨f, hopen, hf, htidy', hslash⟩ :=
    ho.passes (v := scanned) (k := k) (n := 0) hopens htidy
  have hpass : Outline.Passes scanned _ _ _ := Bracket.passes_class ho hu ha k
  have hcopy : asciiFrom scanned (.level k) ('[' :: (o ++ u)) =
      '[' :: (o ++ asciiFrom scanned (inside k 1 f) u) := by
    rw [Pattern.asciiFrom_cons rfl]
    exact congrArg ('[' :: ·) (hopen.asciiFrom rfl hslash u)
  have hrun := hu.asciiOnly (v := scanned) (k := k) hagrees htidy' hf
  rw [ho.asciiOnly_eq] at hrun
  refine ⟨o ++ asciiFrom scanned (inside k 1 f) u, fun tl => ?_, fun tl =>
    .set (ho.congr (hu.closed.eases_asciiFrom htidy' rfl)) hrun⟩
  rw [Pattern.asciiFrom_append (by rw [hpass.after]; rfl), hpass.after, hcopy]

end Gazetteer.Regex
