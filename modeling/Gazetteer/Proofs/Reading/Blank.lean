import Gazetteer.Regex.Blank
import Gazetteer.Proofs.Outline.Passage

/-! Blanks between the characters that count.

What a reader makes of a text depends on the text it takes and not on what comes after. For the
blanks themselves this is `dropBlanks_append`: whether a comment is still open is all that a
stretch of blanks hands on. The readers of characters with blanks between are then determined
by what they take (`spanBlanks_local`, `takeBlanks_local`, `readCount_local`), and a scan passes
over that text. -/
namespace Gazetteer.Regex

open Pattern (Outline)
open Pattern.Outline (Skims Inert isOrdinary level comment)

/-! ### Stretches of blanks -/

/-- Whether a comment is open after a stretch of blanks; nothing for other text. -/
def commentAfter (inComment : Bool) : List Char → Option Bool
  | [] => some inComment
  | c :: cs =>
    if inComment then commentAfter (c != '\n') cs
    else if Unicode.isSpace c then commentAfter false cs
    else if c == '#' then commentAfter true cs
    else none

theorem commentAfter_append (inComment : Bool) (a b : List Char) :
    commentAfter inComment (a ++ b) = (commentAfter inComment a).bind (commentAfter · b) := by
  induction a generalizing inComment with
  | nil => rfl
  | cons c a ih =>
    simp only [List.cons_append, commentAfter]
    split
    · exact ih _
    · split
      · exact ih _
      · split
        · exact ih _
        · rfl

/-- Up to the end of its line everything belongs to a comment. -/
theorem commentAfter_of_notMem {k : List Char} (hk : '\n' ∉ k) :
    commentAfter true k = some true := by
  induction k with
  | nil => rfl
  | cons c k ih =>
    simp only [List.mem_cons, not_or] at hk
    rw [commentAfter, if_pos rfl, bne_iff_ne.mpr (Ne.symm hk.1)]
    exact ih hk.2

theorem dropBlanks_append {inComment o : Bool} {b : List Char}
    (h : commentAfter inComment b = some o) (tail : List Char) :
    dropBlanks inComment (b ++ tail) = dropBlanks o tail := by
  induction b generalizing inComment with
  | nil => rw [← Option.some.inj h]; rfl
  | cons c cs ih =>
    simp only [commentAfter] at h
    simp only [List.cons_append, dropBlanks]
    split at h
    · rename_i hc
      rw [if_pos hc]
      exact ih h
    · rename_i hc
      rw [if_neg hc]
      split at h
      · rename_i hs
        rw [if_pos hs]
        exact ih h
      · rename_i hs
        rw [if_neg hs]
        split at h
        · rename_i hh
          rw [if_pos hh]
          exact ih h
        · exact absurd h (by simp)

/-- What is dropped is a stretch of blanks, closed if anything is left. -/
theorem dropBlanks_split (inComment : Bool) (cs : List Char) :
    ∃ b o, cs = b ++ dropBlanks inComment cs ∧ commentAfter inComment b = some o ∧
      (dropBlanks inComment cs ≠ [] → o = false) := by
  induction cs generalizing inComment with
  | nil => exact ⟨[], inComment, rfl, rfl, fun h => absurd rfl h⟩
  | cons c cs ih =>
    simp only [dropBlanks]
    split
    · rename_i hc
      obtain ⟨b, o, hb, ho, hne⟩ := ih (c != '\n')
      refine ⟨c :: b, o, by rw [List.cons_append, ← hb], ?_, hne⟩
      rw [commentAfter, if_pos hc, ho]
    · rename_i hc
      split
      · rename_i hs
        obtain ⟨b, o, hb, ho, hne⟩ := ih false
        refine ⟨c :: b, o, by rw [List.cons_append, ← hb], ?_, hne⟩
        rw [commentAfter, if_neg hc, if_pos hs, ho]
      · rename_i hs
        split
        · rename_i hh
          obtain ⟨b, o, hb, ho, hne⟩ := ih true
          refine ⟨c :: b, o, by rw [List.cons_append, ← hb], ?_, hne⟩
          rw [commentAfter, if_neg hc, if_neg hs, if_pos hh, ho]
        · refine ⟨[], inComment, rfl, rfl, fun _ => ?_⟩
          simpa using hc

/-- Whether a character counts where it stands: it is not dropped. -/
def isSolid (verbose : Bool) (c : Char) : Bool :=
  !verbose || (!Unicode.isSpace c && c != '#')

theorem skipBlanks_of_isSolid {verbose : Bool} {c : Char} (h : isSolid verbose c)
    (cs : List Char) : skipBlanks verbose (c :: cs) = c :: cs := by
  cases verbose with
  | false => rfl
  | true =>
    simp only [isSolid, Bool.not_true, Bool.false_or, Bool.and_eq_true, Bool.not_eq_true',
      bne_iff_ne, ne_eq] at h
    simp [skipBlanks, dropBlanks, h.1, h.2]

theorem isSolid_of_dropBlanks {inComment : Bool} {cs rest : List Char} {c : Char}
    (h : dropBlanks inComment cs = c :: rest) : isSolid true c := by
  induction cs generalizing inComment with
  | nil => exact absurd h (by simp [dropBlanks])
  | cons d cs ih =>
    simp only [dropBlanks] at h
    split at h
    · exact ih h
    · split at h
      · exact ih h
      · rename_i hs
        split at h
        · exact ih h
        · rename_i hh
          obtain ⟨rfl, -⟩ := List.cons.inj h
          simp only [isSolid, Bool.not_true, Bool.false_or, Bool.and_eq_true, Bool.not_eq_true',
            bne_iff_ne, ne_eq]
          exact ⟨by simpa using hs, by simpa using hh⟩

theorem isSolid_of_skipBlanks {verbose : Bool} {cs rest : List Char} {c : Char}
    (h : skipBlanks verbose cs = c :: rest) : isSolid verbose c := by
  cases verbose with
  | false => rfl
  | true => exact isSolid_of_dropBlanks h

theorem skipBlanks_skipBlanks (verbose : Bool) (cs : List Char) :
    skipBlanks verbose (skipBlanks verbose cs) = skipBlanks verbose cs := by
  cases h : skipBlanks verbose cs with
  | nil => cases verbose <;> rfl
  | cons c rest => exact skipBlanks_of_isSolid (isSolid_of_skipBlanks h) rest

/-- Blanks that are dropped whole whatever comes after them. -/
def Blank (verbose : Bool) (b : List Char) : Prop :=
  if verbose then commentAfter false b = some false else b = []

theorem Blank.nil (verbose : Bool) : Blank verbose [] := by
  cases verbose <;> rfl

theorem Blank.append {verbose : Bool} {a b : List Char} (ha : Blank verbose a)
    (hb : Blank verbose b) : Blank verbose (a ++ b) := by
  cases verbose with
  | false =>
    obtain rfl : a = [] := ha
    exact hb
  | true =>
    have ha : commentAfter false a = some false := ha
    have hb : commentAfter false b = some false := hb
    show commentAfter false (a ++ b) = some false
    rw [commentAfter_append, ha, Option.bind_some, hb]

theorem head_of_commentAfter {b : List Char} {c : Char} {o : Bool}
    (h : commentAfter false (c :: b) = some o) : Unicode.isSpace c ∨ c = '#' := by
  simp only [commentAfter, Bool.false_eq_true, if_false] at h
  split at h
  · rename_i hs
    exact .inl hs
  · split at h
    · rename_i hh
      exact .inr (by simpa using hh)
    · exact absurd h (by simp)

theorem Blank.head {verbose : Bool} {b : List Char} {c : Char} (h : Blank verbose (c :: b)) :
    Unicode.isSpace c ∨ c = '#' := by
  cases verbose with
  | false => exact absurd h (by simp [Blank])
  | true => exact head_of_commentAfter (o := false) h

theorem Blank.skip {verbose : Bool} {b : List Char} (h : Blank verbose b) (tail : List Char) :
    skipBlanks verbose (b ++ tail) = skipBlanks verbose tail := by
  cases verbose with
  | false =>
    obtain rfl : b = [] := h
    rfl
  | true => exact dropBlanks_append h tail

/-- Blanks before a text that begins with a character that counts. -/
theorem Blank.skip_cons {verbose : Bool} {b : List Char} {c : Char} (h : Blank verbose b)
    (hc : isSolid verbose c) (tail : List Char) :
    skipBlanks verbose (b ++ c :: tail) = c :: tail := by
  rw [h.skip, skipBlanks_of_isSolid hc]

/-- Blanks with something after them. -/
theorem skipBlanks_split (verbose : Bool) (cs : List Char) (h : skipBlanks verbose cs ≠ []) :
    ∃ b, cs = b ++ skipBlanks verbose cs ∧ Blank verbose b := by
  cases verbose with
  | false => exact ⟨[], rfl, rfl⟩
  | true =>
    obtain ⟨b, o, hb, ho, hne⟩ := dropBlanks_split false cs
    obtain rfl := hne h
    exact ⟨b, hb, ho⟩

theorem skipBlanks_split_cons {verbose : Bool} {cs rest : List Char} {c : Char}
    (h : skipBlanks verbose cs = c :: rest) :
    ∃ b, cs = b ++ c :: rest ∧ Blank verbose b ∧ isSolid verbose c := by
  obtain ⟨b, hb, hblank⟩ := skipBlanks_split verbose cs (by simp [h])
  exact ⟨b, by rw [h] at hb; exact hb, hblank, isSolid_of_skipBlanks h⟩

/-- `rest` is the text `tail`, perhaps without the blanks it begins with. -/
def Trimmed (verbose : Bool) (tail rest : List Char) : Prop :=
  rest = tail ∨ rest = skipBlanks verbose tail

theorem Trimmed.skip {verbose : Bool} {tail rest : List Char} (h : Trimmed verbose tail rest) :
    skipBlanks verbose rest = skipBlanks verbose tail := by
  rcases h with rfl | rfl
  · rfl
  · exact skipBlanks_skipBlanks verbose tail

/-- The same for a longer text after the blanks, of which at least one character stays. -/
theorem skipBlanks_split_append {verbose : Bool} {cs u rest : List Char} {c : Char}
    (h : skipBlanks verbose cs = u ++ c :: rest) :
    ∃ b, cs = b ++ (u ++ c :: rest) ∧ Blank verbose b ∧
      ∀ tail, skipBlanks verbose (b ++ (u ++ c :: tail)) = u ++ c :: tail := by
  obtain ⟨b, hb, hblank⟩ := skipBlanks_split verbose cs (by simp [h])
  rw [h] at hb
  refine ⟨b, hb, hblank, fun tail => ?_⟩
  cases u with
  | nil => exact hblank.skip_cons (isSolid_of_skipBlanks h) tail
  | cons e u => exact hblank.skip_cons (isSolid_of_skipBlanks h) (u ++ c :: tail)

/-! ### A scan over blanks -/

theorem next_comment (verbose : Bool) (k : Nat) (c : Char) :
    (comment k).next verbose c = ({ comment k with inComment := c != '\n' }, none) := rfl

theorem isOrdinary_of_isSpace {c : Char} (h : Unicode.isSpace c) : isOrdinary c := by
  simp only [isOrdinary, List.contains_eq_mem, List.mem_cons, List.not_mem_nil, or_false,
    Bool.not_eq_true', decide_eq_false_iff_not]
  rintro (rfl | rfl | rfl | rfl | rfl | rfl) <;> exact absurd h (by decide)

/-- A scan of a verbose pattern takes blanks for what they are. -/
theorem skims_of_commentAfter {inComment o : Bool} {b : List Char}
    (h : commentAfter inComment b = some o) (k : Nat) :
    Skims true { level k with inComment := inComment } b { level k with inComment := o } := by
  induction b generalizing inComment with
  | nil => rw [← Option.some.inj h]; exact .nil
  | cons c cs ih =>
    simp only [commentAfter] at h
    split at h
    · rename_i hc
      subst hc
      exact .cons_none (next_comment true k c) rfl (ih h)
    · rename_i hc
      obtain rfl : inComment = false := by simpa using hc
      split at h
      · rename_i hs
        have hord := isOrdinary_of_isSpace hs
        exact .cons (Outline.next_level_of_isOrdinary hord)
          (Outline.isSeparator_of_isOrdinary hord _) rfl (ih h)
      · split at h
        · rename_i hh
          obtain rfl : c = '#' := by simpa using hh
          exact .cons_none rfl rfl (ih h)
        · exact absurd h (by simp)

theorem Blank.inert {verbose : Bool} {b : List Char} (h : Blank verbose b) : Inert verbose b := by
  cases verbose with
  | false =>
    obtain rfl : b = [] := h
    exact .nil
  | true => exact fun k => skims_of_commentAfter h k

/-! ### Characters with blanks between -/

/-- The text `cs` is the characters `taken` with blanks before and between them. -/
inductive Spaced (verbose : Bool) : List Char → List Char → Prop where
  | nil : Spaced verbose [] []
  | char {c cs taken} : Spaced verbose cs taken → Spaced verbose (c :: cs) (c :: taken)
  | blank {b cs taken} : Blank verbose b → Spaced verbose cs taken → Spaced verbose (b ++ cs) taken

theorem Spaced.inert {verbose : Bool} {cs taken : List Char} (h : Spaced verbose cs taken)
    (hord : ∀ c ∈ taken, isOrdinary c) : Inert verbose cs := by
  induction h with
  | nil => exact .nil
  | char _ ih =>
    exact .cons (hord _ (List.mem_cons_self ..)) (ih fun d hd => hord d (List.mem_cons_of_mem _ hd))
  | blank hb _ ih => exact hb.inert.append (ih hord)

theorem Spaced.append {verbose : Bool} {a b ta tb : List Char} (ha : Spaced verbose a ta)
    (hb : Spaced verbose b tb) : Spaced verbose (a ++ b) (ta ++ tb) := by
  induction ha with
  | nil => exact hb
  | char _ ih => exact .char ih
  | blank hblank _ ih =>
    rw [List.append_assoc]
    exact .blank hblank ih

/-- What `spanBlanks` takes up to a character is determined by what it takes. -/
theorem spanBlanks_local {verbose : Bool} {test : Char → Bool} {cs taken rest : List Char}
    {c : Char} (h : spanBlanks verbose test cs = (taken, c :: rest)) :
    (∀ d ∈ taken, test d) ∧ ∃ u, cs = u ++ c :: rest ∧ Spaced verbose u taken ∧
      ∀ tail, spanBlanks verbose test (u ++ c :: tail) = (taken, c :: tail) := by
  fun_induction spanBlanks verbose test cs generalizing taken with
  | case1 => exact absurd (congrArg Prod.snd h) (by simp)
  | case2 d cs hd _ taken' rest' heq ih =>
    obtain ⟨rfl, rfl⟩ := Prod.mk.inj h
    obtain ⟨htest, u, hu, hspaced, hlocal⟩ := ih heq
    refine ⟨?_, ?_⟩
    · intro e he
      rcases List.mem_cons.mp he with rfl | he
      · exact hd
      · exact htest e he
    · obtain ⟨b, hb, hblank, hskip⟩ := skipBlanks_split_append hu
      refine ⟨d :: (b ++ u), by rw [hb]; simp, .char (.blank hblank hspaced), fun tail => ?_⟩
      rw [List.cons_append, List.append_assoc, spanBlanks, if_pos hd, hskip, hlocal tail]
  | case3 d cs hd =>
    obtain ⟨rfl, heq⟩ := Prod.mk.inj h
    obtain ⟨rfl, rfl⟩ := List.cons.inj heq
    refine ⟨fun e he => absurd he (by simp), [], rfl, .nil, fun tail => ?_⟩
    rw [List.nil_append, spanBlanks, if_neg hd]

/-- The next character that counts. -/
def upcoming (verbose : Bool) (cs : List Char) : Option Char := (skipBlanks verbose cs).head?

theorem spanBlanks_of_nil {verbose : Bool} {test : Char → Bool} {cs : List Char}
    (h : (spanBlanks verbose test cs).1 = []) : (spanBlanks verbose test cs).2 = cs := by
  fun_cases spanBlanks verbose test cs with
  | case1 => rfl
  | case2 c cs hc => exact absurd h (by rw [spanBlanks, if_pos hc]; simp)
  | case3 c cs hc => rfl

/-- What `spanBlanks` takes where nothing in particular has to come after it. -/
theorem spanBlanks_sound {verbose : Bool} {test : Char → Bool} {cs taken rest : List Char}
    (h : spanBlanks verbose test (skipBlanks verbose cs) = (taken, rest)) :
    ∃ u tl, cs = u ++ tl ∧ rest = skipBlanks verbose tl ∧ Spaced verbose u taken ∧
      (∀ c ∈ taken, test c) ∧ (∀ c, upcoming verbose tl = some c → test c = false) := by
  induction hn : cs.length using Nat.strongRecOn generalizing cs taken with
  | ind n ih =>
    cases hskip : skipBlanks verbose cs with
    | nil =>
      rw [hskip, spanBlanks] at h
      obtain ⟨rfl, rfl⟩ := Prod.mk.inj h
      exact ⟨[], cs, rfl, hskip.symm, .nil, by simp, by simp [upcoming, hskip]⟩
    | cons c cs' =>
      rw [hskip, spanBlanks] at h
      split at h
      · rename_i hc
        obtain ⟨b, rfl, hblank, hsolid⟩ := skipBlanks_split_cons hskip
        obtain ⟨rfl, hrest⟩ := Prod.mk.inj h
        obtain ⟨u, tl, rfl, hrest', hspaced, htest, hnext⟩ := ih cs'.length
          (by simp [← hn]; omega) (Prod.ext rfl hrest) rfl
        refine ⟨b ++ c :: u, tl, by simp, hrest', .blank hblank (.char hspaced), ?_, hnext⟩
        intro d hd
        rcases List.mem_cons.mp hd with rfl | hd
        · exact hc
        · exact htest d hd
      · rename_i hc
        obtain ⟨rfl, rfl⟩ := Prod.mk.inj h
        refine ⟨[], cs, rfl, hskip.symm, .nil, by simp, fun d hd => ?_⟩
        simp only [upcoming, hskip, List.head?_cons, Option.some.injEq] at hd
        rw [← hd]
        simpa using hc

theorem spanBlanks_complete {verbose : Bool} {test : Char → Bool} {u taken tl : List Char}
    (h : Spaced verbose u taken) (hsolid : ∀ c ∈ taken, isSolid verbose c)
    (htest : ∀ c ∈ taken, test c) (hnext : ∀ c, upcoming verbose tl = some c → test c = false) :
    spanBlanks verbose test (skipBlanks verbose (u ++ tl)) = (taken, skipBlanks verbose tl) := by
  induction h with
  | nil =>
    rw [List.nil_append]
    cases hskip : skipBlanks verbose tl with
    | nil => rw [spanBlanks]
    | cons c cs =>
      have := hnext c (by simp [upcoming, hskip])
      rw [spanBlanks, if_neg (by simp [this])]
  | @char c cs taken _ ih =>
    rw [List.cons_append, skipBlanks_of_isSolid (hsolid c (List.mem_cons_self ..)), spanBlanks,
      if_pos (htest c (List.mem_cons_self ..)),
      ih (fun d hd => hsolid d (List.mem_cons_of_mem c hd))
        (fun d hd => htest d (List.mem_cons_of_mem c hd))]
  | blank hb _ ih =>
    rw [List.append_assoc, hb.skip]
    exact ih hsolid htest

/-- What `takeBlanks` takes is determined by the text up to the last character it takes. -/
theorem takeBlanks_local {verbose : Bool} {test : Char → Bool} {n : Nat}
    {cs taken rest : List Char} (h : takeBlanks verbose test (n + 1) cs = some (taken, rest)) :
    (∀ d ∈ taken, test d) ∧ ∃ u tl, cs = u ++ tl ∧ u ≠ [] ∧ rest = skipBlanks verbose tl ∧
      Spaced verbose u taken ∧
      ∀ tail, takeBlanks verbose test (n + 1) (u ++ tail) =
        some (taken, skipBlanks verbose tail) := by
  induction n generalizing cs taken with
  | zero =>
    cases cs with
    | nil => exact absurd h (by simp [takeBlanks])
    | cons c cs =>
      simp only [takeBlanks, Option.map_some] at h
      split at h
      · rename_i hc
        obtain ⟨rfl, rfl⟩ := Prod.mk.inj (Option.some.inj h)
        refine ⟨fun d hd => ?_, [c], cs, rfl, by simp, rfl, .char .nil, fun tail => ?_⟩
        · rw [List.mem_singleton.mp hd]
          exact hc
        · simp [takeBlanks, hc]
      · exact absurd h (by simp)
  | succ n ih =>
    cases cs with
    | nil => exact absurd h (by simp [takeBlanks])
    | cons c cs =>
      rw [takeBlanks] at h
      split at h
      · rename_i hc
        obtain ⟨⟨taken', rest'⟩, htake, heq⟩ := Option.map_eq_some_iff.1 h
        obtain ⟨rfl, rfl⟩ := Prod.mk.inj heq
        obtain ⟨htest, u, tl, hu, hne, hrest, hspaced, hlocal⟩ := ih htake
        refine ⟨?_, ?_⟩
        · intro e he
          rcases List.mem_cons.mp he with rfl | he
          · exact hc
          · exact htest e he
        · obtain ⟨e, u, rfl⟩ := List.exists_cons_of_ne_nil hne
          obtain ⟨b, hb, hblank, he⟩ := skipBlanks_split_cons hu
          refine ⟨c :: (b ++ e :: u), tl, by rw [hb]; simp, by simp, hrest,
            .char (.blank hblank hspaced), fun tail => ?_⟩
          rw [List.cons_append, List.append_assoc, takeBlanks, if_pos hc, List.cons_append,
            hblank.skip_cons he, ← List.cons_append, hlocal tail]
          rfl
      · exact absurd h (by simp)

/-! ### Counts -/

theorem dropWhile_split {test : Char → Bool} {cs rest : List Char} {c : Char}
    (h : cs.dropWhile test = c :: rest) :
    ∃ w, cs = w ++ c :: rest ∧ (∀ d ∈ w, test d) ∧ test c = false := by
  refine ⟨cs.takeWhile test, ?_, fun d hd => ?_, ?_⟩
  · rw [← h, List.takeWhile_append_dropWhile]
  · exact List.all_eq_true.mp List.all_takeWhile d hd
  · have := List.head_dropWhile_not test (l := cs) (by simp [h])
    simpa [h] using this

theorem dropWhile_append_cons {test : Char → Bool} {w : List Char} {c : Char}
    (hw : ∀ d ∈ w, test d) (hc : test c = false) (tail : List Char) :
    (w ++ c :: tail).dropWhile test = c :: tail := by
  rw [List.dropWhile_append_of_pos hw, List.dropWhile_cons_of_neg (by simp [hc])]

theorem isOrdinary_of_isDigit {c : Char} (h : c.isDigit) : isOrdinary c := by
  simp only [isOrdinary, List.contains_eq_mem, List.mem_cons, List.not_mem_nil, or_false,
    Bool.not_eq_true', decide_eq_false_iff_not]
  rintro (rfl | rfl | rfl | rfl | rfl | rfl) <;> exact absurd h (by decide)

/-- A count that ends before a mark is determined by the text up to the mark. -/
theorem readCount_local {verbose : Bool} {cs rest : List Char} {c : Char} {n : Nat}
    (h : readCount verbose cs = some (n, c :: rest)) :
    ∃ u, cs = u ++ c :: rest ∧ Inert verbose u ∧
      ∀ tail, readCount verbose (u ++ c :: tail) = some (n, c :: tail) := by
  unfold readCount at h
  cases hspan : spanBlanks verbose Char.isDigit (cs.dropWhile Unicode.isSpace) with
  | mk digits after =>
  rw [hspan] at h
  simp only at h
  split at h
  · exact absurd h (by simp)
  · rename_i hok
    obtain ⟨rfl, hafter⟩ := Prod.mk.inj (Option.some.inj h)
    -- The blanks after the digits that `spanBlanks` has not dropped.
    obtain ⟨w₂, hw₂, hspace₂, hdrop₂⟩ : ∃ w₂, after = w₂ ++ c :: rest ∧
        (∀ d ∈ w₂, Unicode.isSpace d) ∧
        ∀ tail, (if verbose then w₂ ++ c :: tail
          else (w₂ ++ c :: tail).dropWhile Unicode.isSpace) = c :: tail := by
      cases verbose with
      | true => exact ⟨[], hafter, by simp, fun tail => rfl⟩
      | false =>
        obtain ⟨w₂, hw₂, hs, hc⟩ := dropWhile_split hafter
        exact ⟨w₂, hw₂, hs, fun tail => dropWhile_append_cons hs hc tail⟩
    obtain ⟨e, w, hw⟩ : ∃ e w, ∀ tail, w₂ ++ c :: tail = e :: (w ++ tail) := by
      cases w₂ with
      | nil => exact ⟨c, [], fun _ => rfl⟩
      | cons d w₂ => exact ⟨d, w₂ ++ [c], fun _ => by simp⟩
    rw [hw₂, hw] at hspan
    obtain ⟨htest, u, hu, hspaced, hlocal⟩ := spanBlanks_local hspan
    have hne : ∃ d r, ∀ tail, u ++ e :: tail = d :: (r ++ tail) := by
      cases u with
      | nil => exact ⟨e, [], fun _ => rfl⟩
      | cons d u => exact ⟨d, u ++ [e], fun _ => by simp⟩
    obtain ⟨d, r, hd⟩ := hne
    obtain ⟨w₁, hw₁, hspace₁, hnot⟩ := dropWhile_split (hu.trans (hd _))
    refine ⟨w₁ ++ (u ++ w₂), ?_, ?_, fun tail => ?_⟩
    · rw [hw₁, ← hd, ← hw]
      simp
    · exact (Outline.Inert.of_forall fun c hc => isOrdinary_of_isSpace (hspace₁ c hc)).append
        ((hspaced.inert fun c hc => isOrdinary_of_isDigit (htest c hc)).append
          (Outline.Inert.of_forall fun c hc => isOrdinary_of_isSpace (hspace₂ c hc)))
    · have hdrop : (w₁ ++ (u ++ w₂) ++ c :: tail).dropWhile Unicode.isSpace =
          u ++ e :: (w ++ tail) := by
        rw [List.append_assoc, List.append_assoc, hw, hd]
        exact dropWhile_append_cons hspace₁ hnot _
      unfold readCount
      rw [hdrop, hlocal]
      simp only
      rw [if_neg hok, ← hw, hdrop₂]

end Gazetteer.Regex
