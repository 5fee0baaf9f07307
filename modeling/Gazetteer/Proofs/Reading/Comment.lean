import Gazetteer.Proofs.Reading.Token

/-! A comment at the end of a line.

In a verbose pattern a comment may be put in front of any line end. Two texts of which one has such
a comment more (`Commented`) are read in the same way: each reader gives the same result for both
and leaves texts that are related again (`InStep`), up to a whole token (`Token.read_aligned`). Only
two characters see the comment: a backslash directly before it, and in a class a hyphen before it
(`Bracket.afterHyphen`). So there must be none of them where it would count. -/
namespace Gazetteer.Regex

open Gazetteer.Regex.Bracket (afterHyphen dropToContent)

/-- What a character of a class looks at behind itself is the same in both texts. -/
def SeesAlike (c : Char) (cs cs' : List Char) : Prop :=
  (c = '-' → afterHyphen true cs = afterHyphen true cs') ∧ (c = '\\' → cs.head? = cs'.head?)

/-- The second text is the first one with the comment `k` put in front of the line end that `tl`
stands behind, or the same. With `inClass`, no character before the comment sees a difference. -/
inductive Commented (k tl : List Char) (inClass : Bool) : List Char → List Char → Prop
  | same (cs : List Char) : Commented k tl inClass cs cs
  | comment (hk : '\n' ∉ k) : Commented k tl inClass ('\n' :: tl) ('#' :: (k ++ '\n' :: tl))
  | cons (c : Char) {cs cs' : List Char} (h : Commented k tl inClass cs cs')
    (hsees : inClass → SeesAlike c cs cs') : Commented k tl inClass (c :: cs) (c :: cs')

/-- Related texts that begin alike. -/
structure Aligned (k tl : List Char) (inClass : Bool) (cs cs' : List Char) : Prop where
  commented : Commented k tl inClass cs cs'
  head : cs.head? = cs'.head?

/-- A reader gives the same result for two texts, if any, and leaves related texts. -/
inductive InStep {α : Type} (k tl : List Char) (inClass : Bool) :
    Option (α × List Char) → Option (α × List Char) → Prop
  | neither : InStep k tl inClass none none
  | both (a : α) {cs cs' : List Char} (h : Commented k tl inClass cs cs') :
    InStep k tl inClass (some (a, cs)) (some (a, cs'))

variable {k tl u w cs cs' : List Char} {inClass : Bool} {α β : Type}

namespace Aligned

theorem same (cs : List Char) : Aligned k tl inClass cs cs := ⟨.same cs, rfl⟩

theorem cons_inv {c : Char} (h : Aligned k tl inClass (c :: cs) cs') :
    ∃ x, cs' = c :: x ∧ Commented k tl inClass cs x ∧ (inClass → SeesAlike c cs x) := by
  obtain ⟨hrel, hhead⟩ := h
  cases hrel with
  | same => exact ⟨cs, rfl, .same cs, fun _ => ⟨fun _ => rfl, fun _ => rfl⟩⟩
  | comment hk => exact absurd hhead (by simp)
  | cons c h hsees => exact ⟨_, rfl, h, hsees⟩

theorem eq_nil (h : Aligned k tl inClass [] cs') : cs' = [] := by
  rw [← List.head?_eq_none_iff, ← h.head, List.head?_nil]

end Aligned

namespace InStep

variable {r r' : Option (α × List Char)}

theorem bind (h : InStep k tl inClass r r') {f : α × List Char → Option (β × List Char)}
    (hf : ∀ a cs cs', Commented k tl inClass cs cs' →
      InStep k tl inClass (f (a, cs)) (f (a, cs'))) :
    InStep k tl inClass (r.bind f) (r'.bind f) := by
  cases h with
  | neither => exact .neither
  | both a h => exact hf a _ _ h

theorem map (h : InStep k tl inClass r r') {f : α × List Char → β × List Char}
    (hf : ∀ a cs cs', Commented k tl inClass cs cs' →
      InStep k tl inClass (some (f (a, cs))) (some (f (a, cs')))) :
    InStep k tl inClass (r.map f) (r'.map f) := by
  cases h with
  | neither => exact .neither
  | both a h => exact hf a _ _ h

end InStep

/-! ### The place of the comment -/

/-- Whether no hyphen and no backslash of the text look beyond its end. -/
def settled : List Char → Bool
  | [] => true
  | c :: cs =>
    (c != '-' || !(dropToContent false cs).isEmpty) && (c != '\\' || !cs.isEmpty) && settled cs

theorem head?_dropToContent_append {inComment : Bool} (h : dropToContent inComment u ≠ [])
    (x : List Char) :
    (dropToContent inComment (u ++ x)).head? = (dropToContent inComment u).head? := by
  induction u generalizing inComment with
  | nil => exact absurd rfl h
  | cons c u ih =>
    simp only [List.cons_append, dropToContent] at h ⊢
    split at h
    · rename_i hs
      rw [if_pos hs, if_pos hs, ih h]
    · rename_i hs
      rw [if_neg hs, if_neg hs]
      split at h
      · rename_i hsign
        rw [if_pos hsign, if_pos hsign, ih h]
      · rename_i hsign
        rw [if_neg hsign, if_neg hsign]
        rfl

namespace Commented

theorem append (hk : '\n' ∉ k) (tl : List Char) (h : inClass → settled u) :
    Commented k tl inClass (u ++ '\n' :: tl) (u ++ '#' :: (k ++ '\n' :: tl)) := by
  induction u with
  | nil => exact .comment hk
  | cons c u ih =>
    refine .cons c (ih fun hc => ?_) fun hc => ⟨?_, ?_⟩
    · have hsettled := h hc
      simp only [settled, Bool.and_eq_true] at hsettled
      exact hsettled.2
    · rintro rfl
      have hsettled := h hc
      simp only [settled, bne_self_eq_false, Bool.false_or, Bool.and_eq_true, Bool.not_eq_true',
        List.isEmpty_eq_false_iff] at hsettled
      have hhead := head?_dropToContent_append hsettled.1.1
      obtain ⟨c, rest, hdrop⟩ := List.exists_cons_of_ne_nil hsettled.1.1
      show afterHyphen true (u ++ _) = afterHyphen true (u ++ _)
      unfold afterHyphen
      rw [if_pos rfl, if_pos rfl, hhead, hhead, hdrop]
      rfl
    · rintro rfl
      have hsettled := h hc
      simp only [settled, bne_self_eq_false, Bool.false_or, Bool.and_eq_true, Bool.not_eq_true',
        List.isEmpty_eq_false_iff] at hsettled
      obtain ⟨c, rest, rfl⟩ := List.exists_cons_of_ne_nil hsettled.1.2
      rfl

theorem eq_or_split (h : Commented k tl inClass cs cs') :
    cs = cs' ∨ ∃ u, cs = u ++ '\n' :: tl ∧ cs' = u ++ '#' :: (k ++ '\n' :: tl) := by
  induction h with
  | same cs => exact .inl rfl
  | comment hk => exact .inr ⟨[], rfl, rfl⟩
  | cons c h hsees ih =>
    rcases ih with rfl | ⟨u, rfl, rfl⟩
    · exact .inl rfl
    · exact .inr ⟨c :: u, rfl, rfl⟩

theorem split_left (hw : '\n' ∉ w) (h : Commented k tl inClass (w ++ cs) cs') :
    ∃ rest, cs' = w ++ rest ∧ Commented k tl inClass cs rest := by
  induction w generalizing cs' with
  | nil => exact ⟨cs', rfl, h⟩
  | cons c w ih =>
    simp only [List.mem_cons, not_or] at hw
    cases h with
    | same => exact ⟨cs, rfl, .same cs⟩
    | comment => exact absurd rfl hw.1
    | cons c h _ =>
      obtain ⟨rest, rfl, hrest⟩ := ih hw.2 h
      exact ⟨rest, rfl, hrest⟩

theorem split_right (hw : '#' ∉ w) (h : Commented k tl inClass cs (w ++ cs')) :
    ∃ rest, cs = w ++ rest ∧ Commented k tl inClass rest cs' := by
  induction w generalizing cs with
  | nil => exact ⟨cs, rfl, h⟩
  | cons c w ih =>
    simp only [List.mem_cons, not_or] at hw
    rw [List.cons_append] at h
    generalize hx : c :: (w ++ cs') = x at h
    cases h with
    | same => exact ⟨cs', hx.symm, .same cs'⟩
    | comment => exact absurd (List.cons.inj hx).1.symm hw.1
    | cons d h _ =>
      obtain ⟨rfl, rfl⟩ := List.cons.inj hx
      obtain ⟨rest, rfl, hrest⟩ := ih hw.2 h
      exact ⟨rest, rfl, hrest⟩

/-- A character that is neither the end of a line nor the sign of a comment is met in both texts or
in neither. -/
theorem meets (h : Commented k tl inClass cs cs') {c : Char} (hline : c ≠ '\n') (hsign : c ≠ '#') :
    (∃ x y, cs = c :: x ∧ cs' = c :: y ∧ Commented k tl inClass x y) ∨
      cs.head? ≠ some c ∧ cs'.head? ≠ some c := by
  by_cases hleft : cs.head? = some c
  · obtain ⟨x, rfl⟩ := List.head?_eq_some_iff.mp hleft
    obtain ⟨y, rfl, hrest⟩ := h.split_left (w := [c]) (by simpa using Ne.symm hline)
    exact .inl ⟨x, y, rfl, rfl, hrest⟩
  · refine .inr ⟨hleft, fun hright => hleft ?_⟩
    obtain ⟨y, rfl⟩ := List.head?_eq_some_iff.mp hright
    obtain ⟨x, rfl, -⟩ := h.split_right (w := [c]) (by simpa using Ne.symm hsign)
    rfl

end Commented

/-- Readers that read on their own what they take, and take no line end and no sign of a comment,
stay in step. -/
theorem inStep_of_local (read : List Char → Option (α × List Char))
    (hread : ∀ x a rest, read x = some (a, rest) → ∃ w, x = w ++ rest ∧ ('\n' ∉ w ∧ '#' ∉ w) ∧
      ∀ tail, read (w ++ tail) = some (a, tail))
    (h : Commented k tl inClass cs cs') : InStep k tl inClass (read cs) (read cs') := by
  cases hleft : read cs with
  | some r =>
    obtain ⟨w, rfl, hw, hlocal⟩ := hread cs r.1 r.2 hleft
    obtain ⟨rest, rfl, hrest⟩ := h.split_left hw.1
    rw [hlocal]
    exact .both r.1 hrest
  | none =>
    cases hright : read cs' with
    | none => exact .neither
    | some r =>
      obtain ⟨w, rfl, hw, hlocal⟩ := hread cs' r.1 r.2 hright
      obtain ⟨rest, rfl, -⟩ := h.split_right hw.2
      rw [hlocal] at hleft
      exact absurd hleft (by simp)

/-! ### Blanks -/

theorem dropBlanks_line (inComment : Bool) (cs : List Char) :
    dropBlanks inComment ('\n' :: cs) = dropBlanks false cs := by
  cases inComment <;> rfl

/-- A comment is dropped with the end of its line, also if one was open before. -/
theorem dropBlanks_commentLine (hk : '\n' ∉ k) (inComment : Bool) (cs : List Char) :
    dropBlanks inComment ('#' :: (k ++ '\n' :: cs)) = dropBlanks false cs := by
  have hcomment := dropBlanks_append (commentAfter_of_notMem hk) ('\n' :: cs)
  rw [dropBlanks_line] at hcomment
  rw [← hcomment]
  cases inComment <;> rfl

namespace Commented

theorem dropBlanks (h : Commented k tl inClass cs cs') (inComment : Bool) :
    Aligned k tl inClass (dropBlanks inComment cs) (dropBlanks inComment cs') := by
  induction h generalizing inComment with
  | same cs => exact .same _
  | comment hk =>
    rw [dropBlanks_line, dropBlanks_commentLine hk]
    exact .same _
  | cons c h hsees ih =>
    simp only [Regex.dropBlanks]
    split
    · exact ih _
    · split
      · exact ih _
      · split
        · exact ih _
        · exact ⟨.cons c h hsees, rfl⟩

theorem skip (h : Commented k tl inClass cs cs') :
    Aligned k tl inClass (skipBlanks true cs) (skipBlanks true cs') :=
  h.dropBlanks false

end Commented

theorem spanBlanks_aligned (h : Aligned k tl inClass cs cs') (test : Char → Bool) :
    ∃ taken rest rest', spanBlanks true test cs = (taken, rest) ∧
      spanBlanks true test cs' = (taken, rest') ∧ Aligned k tl inClass rest rest' := by
  induction hn : cs.length using Nat.strongRecOn generalizing cs cs' with
  | ind n ih =>
    cases cs with
    | nil =>
      obtain rfl := h.eq_nil
      exact ⟨_, _, _, rfl, rfl, .same _⟩
    | cons c cs =>
      obtain ⟨x, rfl, hrel, hsees⟩ := h.cons_inv
      rw [spanBlanks, spanBlanks]
      split
      · have hlength := length_skipBlanks_le true cs
        obtain ⟨taken, rest, rest', hleft, hright, hrest⟩ :=
          ih _ (by rw [← hn, List.length_cons]; omega) hrel.skip rfl
        rw [hleft, hright]
        exact ⟨_, _, _, rfl, rfl, hrest⟩
      · exact ⟨_, _, _, rfl, rfl, .cons c hrel hsees, rfl⟩

theorem takeBlanks_aligned (h : Aligned k tl inClass cs cs') (test : Char → Bool) (n : Nat) :
    InStep k tl inClass (takeBlanks true test n cs) (takeBlanks true test n cs') := by
  induction n generalizing cs cs' with
  | zero => exact .both _ h.commented
  | succ n ih =>
    cases cs with
    | nil =>
      obtain rfl := h.eq_nil
      exact .neither
    | cons c cs =>
      obtain ⟨x, rfl, hrel, -⟩ := h.cons_inv
      rw [takeBlanks, takeBlanks]
      split
      · exact (ih hrel.skip).map fun taken _ _ h => .both (c :: taken) h
      · exact .neither

theorem dropWhile_isSpace_skipBlanks (cs : List Char) :
    (skipBlanks true cs).dropWhile Unicode.isSpace = skipBlanks true cs := by
  cases hskip : skipBlanks true cs with
  | nil => rfl
  | cons c rest =>
    have hsolid := isSolid_of_skipBlanks hskip
    simp only [isSolid, Bool.not_true, Bool.false_or, Bool.and_eq_true, Bool.not_eq_true'] at hsolid
    exact List.dropWhile_cons_of_neg (by simp [hsolid.1])

theorem readCount_commented (h : Commented k tl inClass cs cs') :
    InStep k tl inClass (readCount true (skipBlanks true cs))
      (readCount true (skipBlanks true cs')) := by
  unfold readCount
  rw [dropWhile_isSpace_skipBlanks, dropWhile_isSpace_skipBlanks]
  obtain ⟨digits, rest, rest', hleft, hright, hrest⟩ := spanBlanks_aligned h.skip Char.isDigit
  rw [hleft, hright]
  simp only
  split
  · exact .neither
  · exact .both _ hrest.commented

/-! ### Escapes -/

/-- Readers of a text up to a closing brace stay in step. -/
theorem inStep_braced (test : Char → Bool) {f : List Char → List Char → Option (α × List Char)} :
    Aligned k tl inClass cs cs' →
    (∀ taken x x', Commented k tl inClass x x' → InStep k tl inClass (f taken x) (f taken x')) →
    InStep k tl inClass
      (match spanBlanks true test cs with | (taken, '}' :: rest) => f taken rest | _ => none)
      (match spanBlanks true test cs' with | (taken, '}' :: rest) => f taken rest | _ => none) := by
  intro h hf
  obtain ⟨taken, rest, rest', hleft, hright, hrest⟩ := spanBlanks_aligned h test
  rw [hleft, hright]
  rcases hrest.commented.meets (c := '}') (by decide) (by decide) with
    ⟨x, y, rfl, rfl, hrel⟩ | ⟨hx, hy⟩
  · exact hf taken x y hrel
  · split
    · rename_i heq
      exact absurd (congrArg (·.2.head?) heq) hx
    · split
      · rename_i heq
        exact absurd (congrArg (·.2.head?) heq) hy
      · exact .neither

namespace Escape

theorem readCode_of_head {verbose : Bool} {width : Nat}
    (h : (skipBlanks verbose cs).head? ≠ some '{') :
    readCode verbose width cs = (takeBlanks verbose isHex width (skipBlanks verbose cs)).bind
      fun (digits, rest) => (charOfCode? (hexValue digits)).map
        fun c => (.literal c (width == 2), rest) := by
  unfold readCode
  split
  · rename_i heq
    exact absurd (congrArg List.head? heq) h
  · split
    · rename_i hdigits
      rw [hdigits]
      rfl
    · rename_i hdigits
      rw [hdigits]
      rfl

theorem readCode_commented (h : Commented k tl inClass cs cs') (width : Nat) :
    InStep k tl inClass (readCode true width cs) (readCode true width cs') := by
  rcases h.skip.commented.meets (c := '{') (by decide) (by decide) with
    ⟨x, y, hx, hy, hrel⟩ | ⟨hx, hy⟩
  · unfold readCode
    rw [hx, hy]
    refine inStep_braced isHex hrel.skip fun digits x y hrel => ?_
    split
    · exact .neither
    · cases charOfCode? (hexValue digits) with
      | none => exact .neither
      | some c => exact .both _ hrel.skip.commented
  · rw [readCode_of_head hx, readCode_of_head hy]
    refine (takeBlanks_aligned h.skip isHex width).bind fun digits _ _ hrest => ?_
    simp only
    cases charOfCode? (hexValue digits) with
    | none => exact .neither
    | some c => exact .both _ hrest

theorem readProperty_commented (h : Commented k tl inClass cs cs') (negated : Bool) :
    InStep k tl inClass (readProperty true negated cs) (readProperty true negated cs') := by
  have hskip := h.skip
  unfold readProperty
  generalize skipBlanks true cs = x, skipBlanks true cs' = y at hskip
  cases x with
  | nil =>
    obtain rfl := hskip.eq_nil
    exact .neither
  | cons c x =>
    obtain ⟨y, rfl, hrel, -⟩ := hskip.cons_inv
    by_cases hc : c = '{'
    · subst hc
      exact inStep_braced (· != '}') hrel.skip fun name x x' hrel => .both _ hrel
    · split
      · contradiction
      · rename_i heq
        exact absurd (List.cons.inj heq).1 hc
      · rename_i heq
        obtain ⟨rfl, rfl⟩ := List.cons.inj heq
        split
        · exact .neither
        · exact .both _ hrel.skip.commented

theorem readBoundary_commented (h : Commented k tl inClass cs cs') :
    InStep k tl inClass (readBoundary true cs) (readBoundary true cs') := by
  rcases h.meets (c := '{') (by decide) (by decide) with ⟨x, y, rfl, rfl, hrel⟩ | ⟨hx, hy⟩
  · unfold readBoundary
    simp only
    have hskip := hrel.skip
    generalize skipBlanks true x = z, skipBlanks true y = z' at hskip
    cases z with
    | nil =>
      obtain rfl := hskip.eq_nil
      exact .neither
    | cons d z =>
      obtain ⟨z', rfl, -⟩ := id hskip.cons_inv
      simp only
      split
      · refine inStep_braced _ hskip fun name x x' hrel => ?_
        cases wordEdge? name with
        | none => exact .neither
        | some edge => exact .both _ hrel
      · exact .both _ h
  · have hends : ∀ z : List Char, z.head? ≠ some '{' → endsBoundary true z = true := by
      intro z hz
      cases z with
      | nil => rfl
      | cons c z => exact endsBoundary_of_ne (by simpa using hz)
    rw [readBoundary_of_endsBoundary (hends cs hx), readBoundary_of_endsBoundary (hends cs' hy)]
    exact .both _ h

/-- An escape with a character before the comment is read in step. -/
theorem read_aligned (h : Aligned k tl inClass cs cs') :
    InStep k tl inClass (read true cs) (read true cs') := by
  cases cs with
  | nil =>
    obtain rfl := h.eq_nil
    exact .neither
  | cons c x =>
    obtain ⟨y, rfl, hrel, -⟩ := h.cons_inv
    by_cases hc : c ∈ ['x', 'u', 'U', 'p', 'P', 'b']
    · simp only [List.mem_cons, List.not_mem_nil, or_false] at hc
      rcases hc with rfl | rfl | rfl | rfl | rfl | rfl
      · exact readCode_commented hrel 2
      · exact readCode_commented hrel 4
      · exact readCode_commented hrel 8
      · exact readProperty_commented hrel false
      · exact readProperty_commented hrel true
      · exact readBoundary_commented hrel
    · simp only [List.mem_cons, List.not_mem_nil, or_false, not_or] at hc
      have hread : ∀ z, read true (c :: z) = (ofChar? c).map fun a => (a, z) :=
        fun z => by simp [read, hc]
      rw [hread, hread]
      cases ofChar? c with
      | none => exact .neither
      | some a => exact .both a hrel

end Escape

/-! ### Classes -/

namespace Bracket

theorem readNegation_aligned (h : Aligned k tl inClass cs cs') :
    ∃ negated rest rest', readNegation true cs = (negated, rest) ∧
      readNegation true cs' = (negated, rest') ∧ Aligned k tl inClass rest rest' := by
  cases cs with
  | nil =>
    obtain rfl := h.eq_nil
    exact ⟨_, _, _, rfl, rfl, .same _⟩
  | cons c x =>
    obtain ⟨y, rfl, hrel, -⟩ := id h.cons_inv
    by_cases hc : c = '^'
    · subst hc
      exact ⟨_, _, _, rfl, rfl, hrel.skip⟩
    · have hread : ∀ z, readNegation true (c :: z) = (false, c :: z) := fun z => by
        simp [readNegation, hc]
      exact ⟨_, _, _, hread x, hread y, h⟩

theorem readLeading_aligned (h : Aligned k tl inClass cs cs') :
    ∃ items rest rest', readLeading true cs = (items, rest) ∧
      readLeading true cs' = (items, rest') ∧ Aligned k tl inClass rest rest' := by
  cases cs with
  | nil =>
    obtain rfl := h.eq_nil
    exact ⟨_, _, _, rfl, rfl, .same _⟩
  | cons c x =>
    obtain ⟨y, rfl, hrel, -⟩ := id h.cons_inv
    by_cases hc : c = ']'
    · subst hc
      exact ⟨_, _, _, rfl, rfl, hrel.skip⟩
    · have hread : ∀ z, readLeading true (c :: z) =
          ((spanBlanks true (· == '-') (c :: z)).1.map .literal,
            (spanBlanks true (· == '-') (c :: z)).2) := fun z => by simp [readLeading, hc]
      obtain ⟨hyphens, rest, rest', hleft, hright, hrest⟩ := spanBlanks_aligned h (· == '-')
      refine ⟨hyphens.map .literal, rest, rest', ?_, ?_, hrest⟩
      · rw [hread, hleft]
      · rw [hread, hright]

theorem openAfter_commented (h : Commented k tl inClass cs cs') :
    InStep k tl inClass (openAfter true cs) (openAfter true cs') := by
  obtain ⟨negated, x, x', hleft, hright, hx⟩ := readNegation_aligned h.skip
  obtain ⟨items, rest, rest', hleft', hright', hrest⟩ := readLeading_aligned hx
  unfold openAfter
  rw [hleft, hright]
  simp only
  rw [hleft', hright']
  cases rest with
  | nil =>
    obtain rfl := hrest.eq_nil
    exact .neither
  | cons c rest =>
    obtain ⟨rest', rfl, -⟩ := id hrest.cons_inv
    exact .both _ hrest.commented

theorem readAscii_commented (h : Commented k tl inClass cs cs') :
    InStep k tl inClass (readAscii cs) (readAscii cs') := by
  refine inStep_of_local readAscii (fun x s rest hread => ?_) h
  obtain ⟨n, kind, negated, hkind, rfl, rfl⟩ := readAscii_sound hread
  have hchars : ∀ c ∈ named negated n, c ∈ [':', '^', ']'] ∨ c.isLower := by
    intro c hc
    simp only [named, caret, List.mem_cons, List.mem_append, List.not_mem_nil, or_false] at hc
    rcases hc with rfl | hc | hc | rfl | rfl
    · simp
    · cases negated with
      | true => exact .inl (by simp_all)
      | false => exact absurd hc (by simp)
    · exact .inr (isLower_of_asciiClass? hkind c hc)
    · simp
    · simp
  exact ⟨named negated n, rfl, ⟨fun hc => absurd (hchars _ hc) (by decide),
    fun hc => absurd (hchars _ hc) (by decide)⟩, readAscii_complete hkind negated⟩

theorem readItem_aligned (h : Aligned k tl true cs cs') :
    InStep k tl true (readItem true cs) (readItem true cs') := by
  cases cs with
  | nil =>
    obtain rfl := h.eq_nil
    exact .neither
  | cons c x =>
    obtain ⟨y, rfl, hrel, hsees⟩ := h.cons_inv
    by_cases hc : c = '\\'
    · subst hc
      exact Escape.read_aligned ⟨hrel, (hsees rfl).2 rfl⟩
    · rw [readItem.eq_3 true c x hc, readItem.eq_3 true c y hc]
      exact .both _ hrel

theorem readMember_aligned (h : Aligned k tl true cs cs') :
    InStep k tl true (readMember true cs) (readMember true cs') := by
  unfold readMember
  refine (readItem_aligned h).bind fun first x y hrel => ?_
  have hskip := hrel.skip
  simp only
  generalize skipBlanks true x = z, skipBlanks true y = z' at hskip
  cases z with
  | nil =>
    obtain rfl := hskip.eq_nil
    exact .neither
  | cons c z =>
    obtain ⟨z', rfl, hrel', hsees⟩ := id hskip.cons_inv
    by_cases hc : c = '-'
    · subst hc
      simp only
      rw [(hsees rfl).1 rfl]
      split
      · cases member? first with
        | none => exact .neither
        | some m => exact .both m hskip.commented
      · refine (readItem_aligned hrel'.skip).bind fun last rest rest' hrest => ?_
        simp only
        cases range? first last with
        | none => exact .neither
        | some m => exact .both m hrest
    · split
      · contradiction
      · rename_i heq
        exact absurd (List.cons.inj heq).1 hc
      · split
        · contradiction
        · rename_i heq
          exact absurd (List.cons.inj heq).1 hc
        · cases member? first with
          | none => exact .neither
          | some m => exact .both m hskip.commented

theorem readPiece_aligned (h : Aligned k tl true cs cs') :
    InStep k tl true (readPiece true cs) (readPiece true cs') := by
  cases cs with
  | nil =>
    obtain rfl := h.eq_nil
    exact .neither
  | cons c x =>
    obtain ⟨y, rfl, hrel, -⟩ := id h.cons_inv
    by_cases hopen : c = '['
    · subst hopen
      unfold readPiece
      simp only
      have hascii := readAscii_commented hrel
      generalize readAscii x = r, readAscii y = r' at hascii
      cases hascii with
      | neither => exact (openAfter_commented hrel).map fun b _ _ hrest => .both _ hrest
      | both item hrest => exact .both _ hrest
    by_cases hclose : c = ']'
    · subst hclose
      exact .both _ hrel
    have hmember : startsMember (c :: x) → startsMember (c :: y) →
        InStep k tl true (readPiece true (c :: x)) (readPiece true (c :: y)) := by
      intro hx hy
      rw [readPiece_of_startsMember hx, readPiece_of_startsMember hy]
      exact (readMember_aligned h).map fun item _ _ hrest => .both _ hrest
    cases hop : operator? c with
    | none =>
      exact hmember (startsMember_of_not hopen hclose (by simp [hop]))
        (startsMember_of_not hopen hclose (by simp [hop]))
    | some op =>
      have hline : c ≠ '\n' := by
        rintro rfl
        exact absurd hop (by simp [operator?])
      have hsign : c ≠ '#' := by
        rintro rfl
        exact absurd hop (by simp [operator?])
      rcases hrel.meets hline hsign with ⟨x, y, rfl, rfl, hrest⟩ | ⟨hx, hy⟩
      · have hread : ∀ z, readPiece true (c :: c :: z) = some (.operator op, z) := by
          intro z
          unfold operator? at hop
          split at hop
          iterate 3
            · obtain rfl := Option.some.inj hop
              rfl
          · exact absurd hop (by simp)
        rw [hread, hread]
        exact .both _ hrest
      · exact hmember (startsMember_of_not hopen hclose fun _ _ => hx)
          (startsMember_of_not hopen hclose fun _ _ => hy)

/-- A class is read in step. -/
theorem read_commented (h : Commented k tl true cs cs') (inner : Bracket) (outer : List Bracket) :
    InStep k tl true (read true inner outer cs) (read true inner outer cs') := by
  induction hn : cs.length using Nat.strongRecOn generalizing cs cs' inner outer with
  | ind n ih =>
    rw [read_eq, read_eq]
    have hpiece := readPiece_aligned h.skip
    have hshorter : ∀ p x, readPiece true (skipBlanks true cs) = some (p, x) → x.length < n := by
      intro p x hread
      rw [← hn]
      exact Nat.lt_of_lt_of_le (length_readPiece_lt hread) (length_skipBlanks_le true cs)
    generalize readPiece true (skipBlanks true cs) = r, readPiece true (skipBlanks true cs') = r'
      at hpiece hshorter
    cases hpiece with
    | neither => exact .neither
    | both p hrel =>
      have hlt := hshorter p _ rfl
      cases p with
      | member s => exact ih _ hlt hrel _ _ rfl
      | opening b => exact ih _ hlt hrel _ _ rfl
      | operator op => exact ih _ hlt hrel _ _ rfl
      | closing =>
        cases outer with
        | nil => exact .both _ hrel
        | cons b outer => exact ih _ hlt hrel _ _ rfl

end Bracket

/-! ### Tokens -/

namespace Token

theorem readGroup_aligned (h : Aligned k tl inClass cs cs') :
    InStep k tl inClass (readGroup cs) (readGroup cs') := by
  rcases h.commented.meets (c := '?') (by decide) (by decide) with
    ⟨x, y, rfl, rfl, hrel⟩ | ⟨hx, hy⟩
  · refine inStep_of_local (fun z => readGroup ('?' :: z)) (fun z t rest hread => ?_) hrel
    rcases readGroup_sound hread with ⟨-, -, hne⟩ | ⟨w, htext, hw⟩
    · exact absurd rfl hne
    · obtain ⟨w, rfl⟩ := List.head?_eq_some_iff.mp hw.head
      have hunbroken := hw.unbroken
      simp only [List.mem_cons, not_or] at hunbroken
      exact ⟨w, (List.cons.inj htext).2, ⟨hunbroken.1.2, hunbroken.2.2⟩, hw.reads⟩
  · rw [readGroup_capture hx, readGroup_capture hy]
    exact .both _ h.commented

theorem repeated_commented (h : Commented k tl inClass cs cs') (least : Nat) (most : Option Nat) :
    InStep k tl inClass (some (repeated least most cs)) (some (repeated least most cs')) := by
  rcases h.meets (c := '?') (by decide) (by decide) with ⟨x, y, rfl, rfl, hrest⟩ | ⟨hx, hy⟩
  · exact .both _ hrest
  · rw [repeated_many hx, repeated_many hy]
    exact .both _ h

theorem readCounts_commented (h : Commented k tl inClass cs cs') :
    (readCounts true cs = none ∧ readCounts true cs' = none) ∨
      ∃ least most rest rest', readCounts true cs = some (least, most, rest) ∧
        readCounts true cs' = some (least, most, rest') ∧ Commented k tl inClass rest rest' := by
  unfold readCounts
  have hleast := readCount_commented h
  generalize readCount true (skipBlanks true cs) = r, readCount true (skipBlanks true cs') = r'
    at hleast
  cases hleast with
  | neither => exact .inl ⟨rfl, rfl⟩
  | both least hrel =>
    simp only [Option.bind_eq_bind, Option.bind_some]
    rcases hrel.meets (c := '}') (by decide) (by decide) with ⟨x, y, rfl, rfl, hrest⟩ | ⟨hx, hy⟩
    · exact .inr ⟨_, _, _, _, rfl, rfl, hrest⟩
    rcases hrel.meets (c := ',') (by decide) (by decide) with ⟨x, y, rfl, rfl, hrest⟩ | ⟨hx', hy'⟩
    · simp only
      rcases hrest.skip.commented.meets (c := '}') (by decide) (by decide) with
        ⟨z, z', hz, hz', hclose⟩ | ⟨hz, hz'⟩
      · rw [hz, hz']
        exact .inr ⟨_, _, _, _, rfl, rfl, hclose⟩
      · have hmost := readCount_commented hrest
        generalize skipBlanks true x = z, skipBlanks true y = z' at hmost hz hz' ⊢
        split
        · exact absurd rfl hz
        · split
          · exact absurd rfl hz'
          · generalize readCount true z = r, readCount true z' = r' at hmost
            cases hmost with
            | neither => exact .inl ⟨rfl, rfl⟩
            | both most hrel =>
              simp only [Option.bind_some]
              rcases hrel.meets (c := '}') (by decide) (by decide) with
                ⟨w, w', rfl, rfl, hclose⟩ | ⟨hw, hw'⟩
              · simp only
                split
                · exact .inr ⟨_, _, _, _, rfl, rfl, hclose⟩
                · exact .inl ⟨rfl, rfl⟩
              · refine .inl ⟨?_, ?_⟩
                · split
                  · exact absurd rfl hw
                  · rfl
                · split
                  · exact absurd rfl hw'
                  · rfl
    · refine .inl ⟨?_, ?_⟩
      · split
        · exact absurd rfl hx
        · exact absurd rfl hx'
        · rfl
      · split
        · exact absurd rfl hy
        · exact absurd rfl hy'
        · rfl

/-- A token is read in step, unless it is a backslash directly before the comment. In a class it is
to be known what the characters before the comment see. -/
theorem read_aligned (h : Aligned k tl inClass cs cs') (hclass : cs.head? = some '[' → inClass)
    (hslash : cs.head? = some '\\' → cs.tail.head? = cs'.tail.head?) :
    InStep k tl inClass (read true cs) (read true cs') := by
  cases cs with
  | nil =>
    obtain rfl := h.eq_nil
    exact .neither
  | cons c x =>
    obtain ⟨y, rfl, hrel, -⟩ := h.cons_inv
    by_cases hspecial : c ∈ ['(', ')', '|', '[', '?', '*', '+', '{', '\\']
    · simp only [List.mem_cons, List.not_mem_nil, or_false] at hspecial
      rcases hspecial with rfl | rfl | rfl | rfl | rfl | rfl | rfl | rfl | rfl
      · exact readGroup_aligned hrel.skip
      · exact .both _ hrel
      · exact .both _ hrel
      · obtain rfl := hclass rfl
        refine (Bracket.openAfter_commented hrel).bind fun b _ _ hrest => ?_
        exact (Bracket.read_commented hrest b []).bind fun s _ _ hrest => .both _ hrest
      · exact repeated_commented hrel _ _
      · exact repeated_commented hrel _ _
      · exact repeated_commented hrel _ _
      · unfold read
        simp only
        rcases readCounts_commented hrel with
          ⟨hleft, hright⟩ | ⟨least, most, rest, rest', hleft, hright, hrest⟩
        · rw [hleft, hright]
          exact .neither
        · rw [hleft, hright]
          exact repeated_commented hrest.skip.commented least most
      · exact (Escape.read_aligned ⟨hrel, hslash rfl⟩).map fun a _ _ hrest => .both _ hrest
    · obtain ⟨a, ha⟩ : ∃ a, single? c = some a := by
        unfold single?
        split
        · rename_i hmem
          exact absurd (List.contains_iff_mem.mp hmem) hspecial
        · split <;> exact ⟨_, rfl⟩
      rw [read_of_single ha, read_of_single ha]
      exact .both _ hrel

end Token
end Gazetteer.Regex
