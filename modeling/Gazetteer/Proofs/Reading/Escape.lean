import Gazetteer.Regex.Escape
import Gazetteer.Proofs.Reading.Blank

/-! What an escape takes.

Each lemma `…_local` splits the text at the end of what was read: reading the first part again
with anything after it gives the same result. The blanks that a reader drops behind its last
character are not counted as taken. An escape as a whole is a text that spells something
(`Escape.Spells`), and only `\b` looks at what comes after it. -/
namespace Gazetteer.Regex

open Pattern.Outline (isOrdinary)

/-- Whether a character means nothing to a scan, in brackets or outside. -/
def isPlain (c : Char) : Bool := isOrdinary c && c != ']'

theorem isOrdinary_of_isPlain {c : Char} (h : isPlain c) : isOrdinary c := by
  simp only [isPlain, Bool.and_eq_true] at h
  exact h.1

theorem isPlain_of_ne {c : Char} (h : c ∉ ['[', '(', ')', '\\', '|', '#', ']']) :
    isPlain c := by
  simp only [List.mem_cons, List.not_mem_nil, or_false, not_or] at h
  simp [isPlain, isOrdinary, h]

/-- Braces around plain characters are plain. -/
theorem isPlain_braced {cs : List Char} (h : ∀ c ∈ cs, isPlain c) :
    ∀ c ∈ '{' :: (cs ++ ['}']), isPlain c := by
  intro c hc
  simp only [List.mem_cons, List.mem_append, List.not_mem_nil, or_false] at hc
  rcases hc with rfl | hc | rfl
  · decide
  · exact h c hc
  · decide

namespace Escape

theorem isPlain_of_isHex {c : Char} (h : isHex c) : isPlain c := by
  apply isPlain_of_ne
  simp only [List.mem_cons, List.not_mem_nil, or_false]
  rintro (rfl | rfl | rfl | rfl | rfl | rfl | rfl) <;> exact absurd h (by decide)

theorem readCode_local {verbose : Bool} {n : Nat} {cs rest : List Char} {a : Ast}
    (h : readCode verbose (n + 1) cs = some (a, rest)) :
    ∃ u tl taken, cs = u ++ tl ∧ u ≠ [] ∧ rest = skipBlanks verbose tl ∧
      Spaced verbose u taken ∧ (∀ c ∈ taken, isPlain c) ∧
      ∀ tail, readCode verbose (n + 1) (u ++ tail) = some (a, skipBlanks verbose tail) := by
  unfold readCode at h
  split at h
  · rename_i inner hskip
    obtain ⟨b₁, hb₁, hblank₁, hsolid⟩ := skipBlanks_split_cons hskip
    split at h
    · rename_i digits rest' hspan
      obtain ⟨htest, u, hu, hspaced, hlocal⟩ := spanBlanks_local hspan
      split at h
      · exact absurd h (by simp)
      · rename_i hne
        obtain ⟨c, hc, heq⟩ := Option.map_eq_some_iff.1 h
        obtain ⟨rfl, rfl⟩ := Prod.mk.inj heq
        obtain ⟨b₂, hb₂, hblank₂, hskip₂⟩ := skipBlanks_split_append hu
        refine ⟨b₁ ++ '{' :: (b₂ ++ (u ++ ['}'])), rest', '{' :: (digits ++ ['}']), ?_, by simp,
          rfl, ?_, isPlain_braced fun d hd => isPlain_of_isHex (htest d hd), fun tail => ?_⟩
        · rw [hb₁, hb₂]
          simp
        · exact .blank hblank₁ (.char (.blank hblank₂ (hspaced.append (.char .nil))))
        · unfold readCode
          rw [show b₁ ++ '{' :: (b₂ ++ (u ++ ['}'])) ++ tail =
            b₁ ++ '{' :: (b₂ ++ (u ++ '}' :: tail)) by simp, hblank₁.skip_cons hsolid]
          simp only
          rw [hskip₂, hlocal]
          simp only
          rw [if_neg hne, hc]
          rfl
    · exact absurd h (by simp)
  · rename_i hbrace
    split at h
    · rename_i digits rest' htake
      obtain ⟨c, hc, heq⟩ := Option.map_eq_some_iff.1 h
      obtain ⟨rfl, rfl⟩ := Prod.mk.inj heq
      obtain ⟨htest, u, tl, hu, hne, hrest, hspaced, hlocal⟩ := takeBlanks_local htake
      obtain ⟨e, u, rfl⟩ := List.exists_cons_of_ne_nil hne
      obtain ⟨b, hb, hblank, he⟩ := skipBlanks_split_cons hu
      refine ⟨b ++ e :: u, tl, digits, by rw [hb]; simp, by simp, hrest, .blank hblank hspaced,
        fun d hd => isPlain_of_isHex (htest d hd), fun tail => ?_⟩
      have hstart : skipBlanks verbose (b ++ e :: u ++ tail) = e :: (u ++ tail) := by
        rw [List.append_assoc, List.cons_append, hblank.skip_cons he]
      have hnot : e ≠ '{' := by
        rintro rfl
        exact hbrace _ hu
      unfold readCode
      rw [hstart]
      split
      · rename_i heq
        exact absurd (List.cons.inj heq).1 hnot
      · rw [← List.cons_append, hlocal]
        simp only
        rw [hc]
        rfl
    · exact absurd h (by simp)

end Escape

/-! ### Properties -/

/-- Whether the text of a property escape holds no character that means something to a scan. -/
def PropertyQuery.isPlain : PropertyQuery → Bool
  | .named name => name.toList.all Regex.isPlain
  | .valued property value => property.toList.all Regex.isPlain && value.toList.all Regex.isPlain

/-- Whether the property that the member names, if any, has a plain name. -/
def ClassSet.hasPlainName : ClassSet → Bool
  | .property q _ => q.isPlain
  | _ => true

def Ast.hasPlainName : Ast → Bool
  | .set s => s.hasPlainName
  | _ => true

namespace Escape

theorem splitAt?_eq {mark name before after : List Char}
    (h : splitAt? mark name = some (before, after)) : name = before ++ (mark ++ after) := by
  induction name generalizing before with
  | nil => exact absurd h (by simp [splitAt?])
  | cons c cs ih =>
    simp only [splitAt?] at h
    split at h
    · rename_i hp
      obtain ⟨rfl, rfl⟩ := Prod.mk.inj (Option.some.inj h)
      obtain ⟨rest, hrest⟩ := List.isPrefixOf_iff_prefix.mp hp
      rw [← hrest]
      simp
    · obtain ⟨⟨before', after'⟩, hsplit, heq⟩ := Option.map_eq_some_iff.1 h
      obtain ⟨rfl, rfl⟩ := Prod.mk.inj heq
      rw [ih hsplit]
      rfl

theorem isPlain_of_propertyQuery {name : List Char} (h : (propertyQuery name).isPlain) :
    ∀ c ∈ name, isPlain c := by
  unfold propertyQuery at h
  simp only at h
  split at h
  · rename_i property value hfound
    have hmark : ∃ mark, (∀ c ∈ mark, isPlain c) ∧ name = property ++ (mark ++ value) := by
      simp only [Option.orElse_eq_orElse, Option.orElse_eq_or, Option.or_eq_some_iff] at hfound
      rcases hfound with h₁ | ⟨-, h₂ | ⟨-, h₃⟩⟩
      · exact ⟨['!', '='], List.all_eq_true.mp (by decide), splitAt?_eq h₁⟩
      · exact ⟨[':'], List.all_eq_true.mp (by decide), splitAt?_eq h₂⟩
      · exact ⟨['='], List.all_eq_true.mp (by decide), splitAt?_eq h₃⟩
    obtain ⟨mark, hm, rfl⟩ := hmark
    simp only [PropertyQuery.isPlain, String.toList_ofList, Bool.and_eq_true,
      List.all_eq_true] at h
    intro c hc
    simp only [List.mem_append] at hc
    rcases hc with hc | hc | hc
    · exact h.1 c hc
    · exact hm c hc
    · exact h.2 c hc
  · simpa only [PropertyQuery.isPlain, String.toList_ofList, List.all_eq_true] using h

theorem readProperty_local {verbose negated : Bool} {cs rest : List Char} {a : Ast}
    (h : readProperty verbose negated cs = some (a, rest)) :
    ∃ u tl taken, cs = u ++ tl ∧ Trimmed verbose tl rest ∧ Spaced verbose u taken ∧
      (a.hasPlainName → ∀ c ∈ taken, isPlain c) ∧
      ∀ tail, ∃ rest', readProperty verbose negated (u ++ tail) = some (a, rest') ∧
        Trimmed verbose tail rest' := by
  unfold readProperty at h
  split at h
  · exact absurd h (by simp)
  · rename_i inner hskip
    obtain ⟨b₁, hb₁, hblank₁, hsolid⟩ := skipBlanks_split_cons hskip
    split at h
    · rename_i name rest' hspan
      obtain ⟨rfl, rfl⟩ := Prod.mk.inj (Option.some.inj h)
      obtain ⟨-, u, hu, hspaced, hlocal⟩ := spanBlanks_local hspan
      obtain ⟨b₂, hb₂, hblank₂, hskip₂⟩ := skipBlanks_split_append hu
      refine ⟨b₁ ++ '{' :: (b₂ ++ (u ++ ['}'])), rest', '{' :: (name ++ ['}']), ?_, .inl rfl, ?_,
        fun hplain => isPlain_braced (isPlain_of_propertyQuery hplain),
        fun tail => ⟨tail, ?_, .inl rfl⟩⟩
      · rw [hb₁, hb₂]
        simp
      · exact .blank hblank₁ (.char (.blank hblank₂ (hspaced.append (.char .nil))))
      · unfold readProperty
        rw [show b₁ ++ '{' :: (b₂ ++ (u ++ ['}'])) ++ tail =
          b₁ ++ '{' :: (b₂ ++ (u ++ '}' :: tail)) by simp, hblank₁.skip_cons hsolid]
        simp only
        rw [hskip₂, hlocal]
        rfl
    · exact absurd h (by simp)
  · rename_i c tl hbrace hskip
    obtain ⟨b, hb, hblank, hsolid⟩ := skipBlanks_split_cons hskip
    split at h
    · exact absurd h (by simp)
    · rename_i hslash
      obtain ⟨rfl, rfl⟩ := Prod.mk.inj (Option.some.inj h)
      refine ⟨b ++ [c], tl, [c], by rw [hb]; simp, .inr rfl, .blank hblank (.char .nil), ?_,
        fun tail => ⟨skipBlanks verbose tail, ?_, .inr rfl⟩⟩
      · intro hplain
        simpa only [Ast.hasPlainName, ClassSet.hasPlainName, PropertyQuery.isPlain, String.toList_ofList,
          List.all_eq_true] using hplain
      · have hstart : skipBlanks verbose (b ++ [c] ++ tail) = c :: tail := by
          rw [List.append_assoc]
          exact hblank.skip_cons hsolid tail
        have hnot : c ≠ '{' := by
          rintro rfl
          exact hbrace rfl
        unfold readProperty
        rw [hstart]
        split
        · rename_i heq
          exact absurd heq (by simp)
        · rename_i heq
          exact absurd (List.cons.inj heq).1 hnot
        · rename_i heq
          obtain ⟨rfl, rfl⟩ := List.cons.inj heq
          rw [if_neg hslash]

/-! ### Word edges -/

/-- Whether `\b` ends where a text begins: no word edge is named there. -/
def endsBoundary (verbose : Bool) : List Char → Bool
  | '{' :: inner =>
    match skipBlanks verbose inner with
    | [] => false
    | c :: _ => !(c.isAlpha || c == '-')
  | _ => true

theorem endsBoundary_of_ne {verbose : Bool} {c : Char} {cs : List Char} (hc : c ≠ '{') :
    endsBoundary verbose (c :: cs) = true := by
  unfold endsBoundary
  split
  · rename_i heq
    exact absurd (List.cons.inj heq).1 hc
  · rfl

theorem isPlain_of_isAlpha {c : Char} (h : c.isAlpha || c == '-') : isPlain c := by
  apply isPlain_of_ne
  simp only [List.mem_cons, List.not_mem_nil, or_false]
  rintro (rfl | rfl | rfl | rfl | rfl | rfl | rfl) <;> exact absurd h (by decide)

/-- `\b` either names an edge, and then all of it is taken, or ends at once. -/
theorem readBoundary_local {verbose : Bool} {cs rest : List Char} {a : Ast}
    (h : readBoundary verbose cs = some (a, rest)) :
    (a = .assertion .wordBoundary ∧ rest = cs ∧ endsBoundary verbose cs = true) ∨
      ∃ u taken, u ≠ [] ∧ cs = u ++ rest ∧ Spaced verbose u taken ∧ (∀ c ∈ taken, isPlain c) ∧
        ∀ tail, readBoundary verbose (u ++ tail) = some (a, tail) := by
  unfold readBoundary at h
  simp only at h
  split at h
  · rename_i inner
    split at h
    · exact absurd h (by simp)
    · rename_i c more hskip
      split at h
      · rename_i hc
        split at h
        · rename_i name rest' hspan
          obtain ⟨edge, hedge, heq⟩ := Option.map_eq_some_iff.1 h
          obtain ⟨rfl, rfl⟩ := Prod.mk.inj heq
          obtain ⟨htest, u, hu, hspaced, hlocal⟩ := spanBlanks_local hspan
          obtain ⟨b, hb, hblank⟩ :=
            skipBlanks_split verbose inner (by simp [hu])
          rw [hu] at hb
          obtain ⟨e, u, rfl⟩ : ∃ e w, u = e :: w := by
            cases u with
            | nil =>
              obtain ⟨rfl, -⟩ := List.cons.inj (hskip.symm.trans hu)
              exact absurd hc (by decide)
            | cons e u => exact ⟨e, u, rfl⟩
          obtain ⟨rfl, -⟩ := List.cons.inj (hskip.symm.trans hu)
          refine .inr ⟨'{' :: (b ++ (c :: u ++ ['}'])), '{' :: (name ++ ['}']), by simp,
            by rw [hb]; simp, .char (.blank hblank (hspaced.append (.char .nil))),
            isPlain_braced fun d hd => isPlain_of_isAlpha (htest d hd), fun tail => ?_⟩
          have hskip₂ : skipBlanks verbose (b ++ (c :: u ++ '}' :: tail)) =
              c :: (u ++ '}' :: tail) :=
            hblank.skip_cons (isSolid_of_skipBlanks hskip) (u ++ '}' :: tail)
          unfold readBoundary
          rw [show '{' :: (b ++ (c :: u ++ ['}'])) ++ tail =
            '{' :: (b ++ (c :: u ++ '}' :: tail)) by simp]
          simp only
          rw [hskip₂]
          simp only
          rw [if_pos hc, ← List.cons_append, hlocal]
          simp only
          rw [hedge]
          rfl
        · exact absurd h (by simp)
      · rename_i hc
        obtain ⟨rfl, rfl⟩ := Prod.mk.inj (Option.some.inj h)
        refine .inl ⟨rfl, rfl, ?_⟩
        simp only [endsBoundary, hskip]
        simpa using hc
  · rename_i hbrace
    obtain ⟨rfl, rfl⟩ := Prod.mk.inj (Option.some.inj h)
    refine .inl ⟨rfl, rfl, ?_⟩
    unfold endsBoundary
    split
    · rename_i inner
      exact absurd rfl (hbrace inner)
    · rfl

theorem readBoundary_of_endsBoundary {verbose : Bool} {cs : List Char}
    (h : endsBoundary verbose cs = true) :
    readBoundary verbose cs = some (.assertion .wordBoundary, cs) := by
  obtain ⟨inner, c, more, rfl, hskip, hc⟩ | hbrace : (∃ inner c more, cs = '{' :: inner ∧
      skipBlanks verbose inner = c :: more ∧ (c.isAlpha || c == '-') = false) ∨
      ∀ inner, cs ≠ '{' :: inner := by
    unfold endsBoundary at h
    split at h
    · rename_i inner
      split at h
      · exact absurd h (by simp)
      · rename_i c more hskip
        exact .inl ⟨inner, c, more, rfl, hskip, by simpa using h⟩
    · rename_i hbrace
      exact .inr hbrace
  · unfold readBoundary
    simp only [hskip]
    exact if_neg (by simp [hc])
  · unfold readBoundary
    split
    · rename_i inner
      exact absurd rfl (hbrace inner)
    · rfl

/-! ### Escapes -/

/-- The text `e` behind a backslash says `a`. -/
structure Spells (verbose : Bool) (e : List Char) (a : Ast) : Prop where
  shape : ∃ c u taken, e = c :: u ∧ Spaced verbose u taken ∧
    (a.hasPlainName → ∀ d ∈ taken, isPlain d)
  reads : ∀ tail, (e = ['b'] → endsBoundary verbose tail = true) →
    ∃ rest, read verbose (e ++ tail) = some (a, rest) ∧ Trimmed verbose tail rest

theorem spells_of_readCode {verbose : Bool} {n : Nat} {c : Char} {cs rest : List Char} {a : Ast}
    (hread : ∀ tail, read verbose (c :: tail) = readCode verbose (n + 1) tail)
    (h : readCode verbose (n + 1) cs = some (a, rest)) :
    ∃ u tl, cs = u ++ tl ∧ Trimmed verbose tl rest ∧ Spells verbose (c :: u) a ∧ u ≠ [] := by
  obtain ⟨u, tl, taken, rfl, hne, rfl, hspaced, hplain, hlocal⟩ := readCode_local h
  exact ⟨u, tl, rfl, .inr rfl, ⟨⟨c, u, taken, rfl, hspaced, fun _ => hplain⟩, fun tail _ =>
    ⟨_, by rw [List.cons_append, hread, hlocal], .inr rfl⟩⟩, hne⟩

theorem spells_of_readProperty {verbose negated : Bool} {c : Char} {cs rest : List Char} {a : Ast}
    (hread : ∀ tail, read verbose (c :: tail) = readProperty verbose negated tail)
    (h : readProperty verbose negated cs = some (a, rest)) :
    ∃ u tl, cs = u ++ tl ∧ Trimmed verbose tl rest ∧ Spells verbose (c :: u) a := by
  obtain ⟨u, tl, taken, rfl, hrest, hspaced, hplain, hlocal⟩ := readProperty_local h
  refine ⟨u, tl, rfl, hrest, ⟨⟨c, u, taken, rfl, hspaced, hplain⟩, fun tail _ => ?_⟩⟩
  rw [List.cons_append, hread]
  exact hlocal tail

/-- What was read behind a backslash is the text of an escape. -/
theorem read_sound {verbose : Bool} {cs rest : List Char} {a : Ast}
    (h : read verbose cs = some (a, rest)) :
    ∃ e tl, cs = e ++ tl ∧ Trimmed verbose tl rest ∧ Spells verbose e a ∧
      (e = ['b'] → endsBoundary verbose tl = true) := by
  have hb : ∀ c u, c ≠ 'b' → c :: u = ['b'] → endsBoundary verbose rest = true :=
    fun c u hc heq => absurd (List.cons.inj heq).1 hc
  unfold read at h
  split at h
  · exact absurd h (by simp)
  · obtain ⟨u, tl, rfl, hrest, hs, -⟩ := spells_of_readCode (c := 'x') (fun _ => rfl) h
    exact ⟨'x' :: u, tl, rfl, hrest, hs, by simp⟩
  · obtain ⟨u, tl, rfl, hrest, hs, -⟩ := spells_of_readCode (c := 'u') (fun _ => rfl) h
    exact ⟨'u' :: u, tl, rfl, hrest, hs, by simp⟩
  · obtain ⟨u, tl, rfl, hrest, hs, -⟩ := spells_of_readCode (c := 'U') (fun _ => rfl) h
    exact ⟨'U' :: u, tl, rfl, hrest, hs, by simp⟩
  · obtain ⟨u, tl, rfl, hrest, hs⟩ := spells_of_readProperty (c := 'p') (fun _ => rfl) h
    exact ⟨'p' :: u, tl, rfl, hrest, hs, by simp⟩
  · obtain ⟨u, tl, rfl, hrest, hs⟩ := spells_of_readProperty (c := 'P') (fun _ => rfl) h
    exact ⟨'P' :: u, tl, rfl, hrest, hs, by simp⟩
  · rename_i cs
    rcases readBoundary_local h with ⟨rfl, rfl, hends⟩ | ⟨u, taken, hne, rfl, hspaced, hp, hlocal⟩
    · refine ⟨['b'], rest, rfl, .inl rfl, ⟨⟨'b', [], [], rfl, .nil, by simp⟩, fun tail ht => ?_⟩,
        fun _ => hends⟩
      exact ⟨tail, readBoundary_of_endsBoundary (ht rfl), .inl rfl⟩
    · refine ⟨'b' :: u, rest, rfl, .inl rfl, ⟨⟨'b', u, taken, rfl, hspaced, fun _ => hp⟩,
        fun tail _ => ⟨tail, hlocal tail, .inl rfl⟩⟩, fun heq => ?_⟩
      exact absurd (List.cons.inj heq).2 hne
  · rename_i c cs hx hu hU hp hP hbb
    obtain ⟨a', ha, heq⟩ := Option.map_eq_some_iff.1 h
    obtain ⟨rfl, rfl⟩ := Prod.mk.inj heq
    have hc : c ≠ 'b' := by
      rintro rfl
      exact hbb rfl
    refine ⟨[c], cs, rfl, .inl rfl, ⟨⟨c, [], [], rfl, .nil, by simp⟩, fun tail _ => ?_⟩,
      fun heq => absurd (List.cons.inj heq).1 hc⟩
    refine ⟨tail, ?_, .inl rfl⟩
    rw [List.singleton_append, read.eq_8 verbose c tail hx hu hU hp hP hbb, ha]
    rfl

end Escape
end Gazetteer.Regex
