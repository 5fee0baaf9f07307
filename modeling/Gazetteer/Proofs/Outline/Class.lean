import Gazetteer.Proofs.Reading.ClassRun

/-! A scan over a class.

A scan knows less of a class than its reader: it counts brackets, and takes a closing bracket for
a member only where it comes first. The two see the same class if they take the same first
brackets for members (`opensAlike`), if no range ends at a bare bracket (`agrees`) and if a class
of a verbose pattern holds no comment. Then the scan is back outside brackets exactly where the
class ends (`Run.passes`). -/
namespace Gazetteer.Regex

open Pattern (Outline)
open Pattern.Outline (Passes isSeparator level inside)

/-! ### Characters that are not escaped -/

/-- Whether the character stands in the text without a backslash before it. -/
def bare (c : Char) : List Char → Bool
  | [] => false
  | '\\' :: _ :: cs => bare c cs
  | d :: cs => d == c || bare c cs

theorem bare_cons {c d : Char} (hd : d ≠ '\\') (cs : List Char) :
    bare c (d :: cs) = (d == c || bare c cs) := by
  rw [bare.eq_3 c d cs]
  intro e cs' hslash
  exact absurd hslash hd

theorem bare_of_append {c : Char} {a b : List Char} (hc : c ≠ '\\')
    (h : bare c (a ++ b) = false) : bare c a = false := by
  fun_induction bare c a with
  | case1 => rfl
  | case2 d cs ih => exact ih h
  | case3 d cs hpair ih =>
    by_cases hd : d = '\\'
    · subst hd
      cases cs with
      | nil => simpa [bare] using Ne.symm hc
      | cons e cs => exact absurd rfl (hpair e cs rfl)
    · rw [List.cons_append, bare_cons hd, Bool.or_eq_false_iff] at h
      rw [h.1, ih h.2]
      rfl

/-- No comment stands in the text of a verbose pattern. -/
def Tidy (verbose : Bool) (cs : List Char) : Prop := verbose = true → bare '#' cs = false

theorem Tidy.cons {verbose : Bool} {c : Char} {cs : List Char} (hc : c ≠ '\\')
    (h : Tidy verbose (c :: cs)) : Tidy verbose cs := by
  intro hv
  have := h hv
  rw [bare_cons hc, Bool.or_eq_false_iff] at this
  exact this.2

theorem Tidy.escaped {verbose : Bool} {c : Char} {cs : List Char}
    (h : Tidy verbose ('\\' :: c :: cs)) : Tidy verbose cs := h

theorem Tidy.append {verbose : Bool} {w cs : List Char} (hw : ∀ c ∈ w, c ≠ '\\')
    (h : Tidy verbose (w ++ cs)) : Tidy verbose cs := by
  induction w with
  | nil => exact h
  | cons c w ih =>
    exact ih (fun d hd => hw d (List.mem_cons_of_mem c hd)) (h.cons (hw c (List.mem_cons_self ..)))

/-- Blanks without a comment are spaces. -/
theorem isSpace_of_commentAfter {b : List Char} {o : Bool} (hb : commentAfter false b = some o)
    (h : bare '#' b = false) : (∀ c ∈ b, Unicode.isSpace c) ∧ o = false := by
  induction b with
  | nil => exact ⟨by simp, (Option.some.inj hb).symm⟩
  | cons c b ih =>
    simp only [commentAfter, Bool.false_eq_true, if_false] at hb
    split at hb
    · rename_i hs
      have hc : c ≠ '\\' := by
        rintro rfl
        exact absurd hs (by decide)
      rw [bare_cons hc, Bool.or_eq_false_iff] at h
      obtain ⟨hspace, ho⟩ := ih hb h.2
      refine ⟨fun d hd => ?_, ho⟩
      rcases List.mem_cons.mp hd with rfl | hd
      · exact hs
      · exact hspace d hd
    · split at hb
      · rename_i hh
        obtain rfl : c = '#' := by simpa using hh
        rw [bare_cons (by decide)] at h
        exact absurd h (by simp)
      · exact absurd hb (by simp)

theorem Blank.tidy {verbose : Bool} {b cs : List Char} (hb : Blank verbose b)
    (h : Tidy verbose (b ++ cs)) : (∀ c ∈ b, Unicode.isSpace c) ∧ Tidy verbose cs := by
  cases verbose with
  | false =>
    obtain rfl : b = [] := hb
    exact ⟨by simp, h⟩
  | true =>
    have hb : commentAfter false b = some false := hb
    have hspace := (isSpace_of_commentAfter hb (bare_of_append (by decide) (h rfl))).1
    refine ⟨hspace, Tidy.append (fun c hc => ?_) h⟩
    rintro rfl
    exact absurd (hspace _ hc) (by decide)

theorem Spaced.tidy {verbose : Bool} {u taken cs : List Char} (hu : Spaced verbose u taken)
    (ht : '\\' ∉ taken) (h : Tidy verbose (u ++ cs)) :
    (∀ c ∈ u, Unicode.isSpace c ∨ c ∈ taken) ∧ Tidy verbose cs := by
  induction hu with
  | nil => exact ⟨by simp, h⟩
  | @char c u taken _ ih =>
    simp only [List.mem_cons, not_or] at ht
    obtain ⟨hall, htidy⟩ := ih ht.2 (h.cons (Ne.symm ht.1))
    refine ⟨fun d hd => ?_, htidy⟩
    rcases List.mem_cons.mp hd with rfl | hd
    · exact .inr (List.mem_cons_self ..)
    · exact (hall d hd).imp_right (List.mem_cons_of_mem c)
  | blank hb _ ih =>
    rw [List.append_assoc] at h
    obtain ⟨hspace, htidy⟩ := hb.tidy h
    obtain ⟨hall, htidy⟩ := ih ht htidy
    refine ⟨fun d hd => ?_, htidy⟩
    rcases List.mem_append.mp hd with hd | hd
    · exact .inl (hspace d hd)
    · exact hall d hd

/-- Behind the first character of an escape nothing means anything to a scan. -/
theorem Escape.Spells.tidy {verbose : Bool} {e : Char} {u cs : List Char} {a : Ast}
    (h : Spells verbose (e :: u) a) (hp : a.hasPlainName) (ht : Tidy verbose ('\\' :: e :: u ++ cs)) :
    (∀ d ∈ u, d ∉ ['[', ']', '\\']) ∧ Tidy verbose cs := by
  obtain ⟨c, z, taken, heq, hspaced, hplain⟩ := h.shape
  obtain ⟨rfl, rfl⟩ := List.cons.inj heq
  have hplain := hplain hp
  have hslash : '\\' ∉ taken := fun hmem => absurd (hplain _ hmem) (by decide)
  obtain ⟨hall, htidy⟩ := hspaced.tidy hslash (Tidy.escaped (c := e) (by simpa using ht))
  refine ⟨fun d hd hmem => ?_, htidy⟩
  simp only [List.mem_cons, List.not_mem_nil, or_false] at hmem
  rcases hall d hd with hs | hs
  · rcases hmem with rfl | rfl | rfl <;> exact absurd hs (by decide)
  · have := hplain d hs
    rcases hmem with rfl | rfl | rfl <;> exact absurd this (by decide)

/-! ### A scan inside brackets -/

theorem next_inside {v : Bool} {k n : Nat} {f : Bool} {c : Char}
    (hc : c ∉ ['[', ']', '\\']) :
    (inside k (n + 1) f).next v c = (inside k (n + 1) (f && c == '^'), none) := by
  simp only [List.mem_cons, List.not_mem_nil, or_false, not_or] at hc
  obtain ⟨h₁, h₂, h₃⟩ := hc
  have hslash : (c == '\\') = false := by simpa using h₃
  simp only [Outline.next, inside, Bool.false_eq_true, if_false, hslash, gt_iff_lt,
    Nat.zero_lt_succ, if_true, Outline.inBrackets]
  split
  · exact absurd rfl h₂
  · simp
  · exact absurd rfl h₁
  · rename_i _ h₄ _
    have : (c == '^') = false := by simpa using h₄
    simp [this]

theorem passes_inside {v : Bool} {k n : Nat} {f : Bool} {w : List Char}
    (hw : ∀ c ∈ w, c ∉ ['[', ']', '\\']) :
    Passes v (inside k (n + 1) f) w (inside k (n + 1) (f && w.all (· == '^'))) := by
  induction w generalizing f with
  | nil => simpa using Passes.nil
  | cons c w ih =>
    refine .cons_none (next_inside (hw c (List.mem_cons_self ..))) ?_
    have := ih (f := f && c == '^') fun d hd => hw d (List.mem_cons_of_mem c hd)
    rwa [Bool.and_assoc] at this

theorem passes_inside_escape {verbose : Bool} {k n : Nat} {f : Bool} {c : Char} :
    Passes verbose (inside k n f) ['\\', c] (inside k n false) := by
  refine .cons_none rfl (.cons_none ?_ .nil)
  simp [Outline.next, inside]

namespace Bracket

/-! ### Where a scan and a class agree -/

/-- Whether a scan takes a closing bracket for the first member after an opening one. -/
def leadsForScan (cs : List Char) : Bool := (cs.dropWhile (· == '^')).head? == some ']'

/-- Whether the class does. -/
def leadsForClass (verbose : Bool) (cs : List Char) : Bool :=
  (readNegation verbose (skipBlanks verbose cs)).2.head? == some ']'

/-- Whether the two take the same first members, given the text after an opening bracket. -/
def opensAlike (verbose : Bool) (cs : List Char) : Bool :=
  leadsForScan cs == leadsForClass verbose cs

/-- The character with which the last item of a range begins. -/
def rangeEnd? (verbose : Bool) (cs : List Char) : Option Char :=
  match readItem verbose cs with
  | none => none
  | some (_, rest) =>
    match skipBlanks verbose rest with
    | '-' :: tail => upcoming verbose tail
    | _ => none

/-- Whether a piece that was read from `cs` has no bracket that a scan would misread. -/
def Piece.agrees (verbose : Bool) (cs : List Char) : Piece → Bool
  | .opening _ => opensAlike verbose (cs.drop 1)
  | .member (.range _ _) =>
    rangeEnd? verbose cs != some '[' && rangeEnd? verbose cs != some ']'
  | .member s => s.hasPlainName
  | _ => true

/-- Whether that holds of all pieces up to the end of the class, with `depth` brackets open
around the innermost one. -/
def agrees (verbose : Bool) (depth : Nat) (cs : List Char) : Bool :=
  match h : readPiece verbose (skipBlanks verbose cs) with
  | none => true
  | some (piece, rest) =>
    have : rest.length < cs.length :=
      Nat.lt_of_lt_of_le (length_readPiece_lt h) (length_skipBlanks_le verbose cs)
    piece.agrees verbose (skipBlanks verbose cs) &&
      match piece, depth with
      | .closing, 0 => true
      | .closing, depth + 1 => agrees verbose depth rest
      | .opening _, depth => agrees verbose (depth + 1) rest
      | _, depth => agrees verbose depth rest
termination_by cs.length

theorem agrees_eq (verbose : Bool) (depth : Nat) (cs : List Char) :
    agrees verbose depth cs =
      match readPiece verbose (skipBlanks verbose cs) with
      | none => true
      | some (piece, rest) =>
        piece.agrees verbose (skipBlanks verbose cs) &&
          match piece, depth with
          | .closing, 0 => true
          | .closing, depth + 1 => agrees verbose depth rest
          | .opening _, depth => agrees verbose (depth + 1) rest
          | _, depth => agrees verbose depth rest := by
  rw [agrees]
  split
  · rename_i heq
    rw [heq]
  · rename_i piece rest heq
    cases piece <;> cases depth <;> simp only [heq]

theorem agrees_congr {verbose : Bool} {cs cs' : List Char}
    (h : skipBlanks verbose cs = skipBlanks verbose cs') (depth : Nat) :
    agrees verbose depth cs = agrees verbose depth cs' := by
  rw [agrees_eq, agrees_eq, h]

/-! ### A scan over the pieces -/

variable {verbose v : Bool} {k n : Nat} {f : Bool}

theorem leadsForScan_of_ne {c : Char} {cs : List Char} (h₁ : c ≠ '^') (h₂ : c ≠ ']') :
    leadsForScan (c :: cs) = false := by
  simp [leadsForScan, h₁, h₂]

/-- Blanks leave a closing bracket first only if there are none of them. -/
theorem passes_blank {b cs : List Char} (hb : Blank verbose b) (ht : Tidy verbose (b ++ cs))
    (hf : f = true → leadsForScan (b ++ cs) = false) :
    ∃ f', Passes v (inside k (n + 1) f) b (inside k (n + 1) f') ∧
      (f' = true → leadsForScan cs = false) ∧ Tidy verbose cs := by
  obtain ⟨hspace, htidy⟩ := hb.tidy ht
  refine ⟨f && b.all (· == '^'), passes_inside fun c hc => ?_, fun hf' => ?_, htidy⟩
  · have := hspace c hc
    simp only [List.mem_cons, List.not_mem_nil, or_false]
    rintro (rfl | rfl | rfl) <;> exact absurd this (by decide)
  · rw [Bool.and_eq_true] at hf'
    cases b with
    | nil => exact hf hf'.1
    | cons c b =>
      have hcaret : c = '^' := by simpa using (List.all_eq_true.mp hf'.2) c (List.mem_cons_self ..)
      subst hcaret
      exact absurd (hspace '^' (List.mem_cons_self ..)) (by decide)

theorem Item.passes {u cs : List Char} {a : Ast} (h : Item verbose u a) (hp : a.hasPlainName)
    (hc : ∀ c, u = [c] → c ∉ ['[', ']']) (ht : Tidy verbose (u ++ cs)) :
    ∃ f', Passes v (inside k (n + 1) f) u (inside k (n + 1) f') ∧
      (f' = true → f = true ∧ u = ['^']) ∧ Tidy verbose cs := by
  cases h with
  | @literal c hslash =>
    have hmem : c ∉ ['[', ']', '\\'] := by
      have := hc c rfl
      simp only [List.mem_cons, List.not_mem_nil, or_false, not_or] at this ⊢
      exact ⟨this.1, this.2, hslash⟩
    refine ⟨f && c == '^', .cons_none (next_inside hmem) .nil, fun hf => ?_, ht.cons hslash⟩
    rw [Bool.and_eq_true, beq_iff_eq] at hf
    exact ⟨hf.1, by rw [hf.2]⟩
  | escape hspells =>
    obtain ⟨c, u, -, rfl, -, -⟩ := hspells.shape
    obtain ⟨hall, htidy⟩ := hspells.tidy hp ht
    have hrest := passes_inside (v := v) (k := k) (n := n) (f := false) hall
    exact ⟨false, passes_inside_escape.append (by simpa using hrest), by simp, htidy⟩

theorem hasPlainName_of_member? {a : Ast} {m : ClassSet} (h : member? a = some m)
    (hm : m.hasPlainName) : a.hasPlainName := by
  unfold member? at h
  split at h
  · rfl
  · obtain rfl := Option.some.inj h
    exact hm
  · exact absurd h (by simp)

theorem hasPlainName_of_range? {a b : Ast} {r : ClassSet} (h : range? a b = some r) :
    a.hasPlainName ∧ b.hasPlainName ∧ ∃ first last, r = .range first last := by
  unfold range? at h
  split at h
  · split at h
    · exact ⟨rfl, rfl, _, _, (Option.some.inj h).symm⟩
    · exact absurd h (by simp)
  · exact absurd h (by simp)

theorem leadsForScan_blank {b cs : List Char} (hb : Blank verbose b)
    (h : leadsForScan (b ++ cs) = true) : b = [] := by
  cases b with
  | nil => rfl
  | cons c b =>
    have hc : c ≠ '^' ∧ c ≠ ']' := by
      rcases hb.head with hc | rfl
      · constructor <;> rintro rfl <;> exact absurd hc (by decide)
      · decide
    rw [List.cons_append, leadsForScan_of_ne hc.1 hc.2] at h
    exact absurd h (by simp)

theorem leadsForScan_append {w cs : List Char} (hw : w.all (· == '^')) :
    leadsForScan (w ++ cs) = leadsForScan cs := by
  unfold leadsForScan
  rw [List.dropWhile_append_of_pos (List.all_eq_true.mp hw)]

theorem passes_caret : Passes v (inside k (n + 1) f) ['^'] (inside k (n + 1) f) := by
  have := next_inside (v := v) (k := k) (n := n) (f := f) (c := '^') (by decide)
  rw [show ('^' == '^') = true from rfl, Bool.and_true] at this
  exact .cons_none this .nil

theorem passes_first : Passes v (inside k (n + 1) true) [']'] (inside k (n + 1) false) :=
  .cons_none rfl .nil

/-- The text of a leading bracket holds nothing else if a scan sees it lead. -/
theorem Opening.passes_bracket {g b tl : List Char} {negated : Bool}
    (hg : Negation verbose (b ++ [']'] ++ tl) g negated) (hb : Blank verbose b)
    (hlead : leadsForScan (g ++ (b ++ [']']) ++ tl) = true) :
    g ++ (b ++ [']']) ∈ [[']'], ['^', ']']] := by
  cases hg with
  | none _ =>
    have htext : [] ++ (b ++ [']']) ++ tl = b ++ ']' :: tl := by simp
    rw [htext] at hlead
    obtain rfl := leadsForScan_blank hb hlead
    simp
  | @caret b' hb' =>
    have htext : b' ++ ['^'] ++ (b ++ [']']) ++ tl = b' ++ '^' :: (b ++ ']' :: tl) := by simp
    rw [htext] at hlead
    obtain rfl := leadsForScan_blank hb' hlead
    have hcaret : leadsForScan ('^' :: (b ++ ']' :: tl)) = leadsForScan (b ++ ']' :: tl) :=
      leadsForScan_append (w := ['^']) (by decide)
    rw [List.nil_append, hcaret] at hlead
    obtain rfl := leadsForScan_blank hb hlead
    simp

/-- Without a leading bracket an opening holds blanks, a caret and hyphens. -/
theorem Opening.passes_hyphens {g u taken tl : List Char} {negated : Bool}
    (hg : Negation verbose (u ++ tl) g negated) (hu : Spaced verbose u taken)
    (ht : ∀ c ∈ taken, c = '-') (htidy : Tidy verbose (g ++ (u ++ tl))) :
    (∀ c ∈ g ++ u, c ∉ ['[', ']', '\\']) ∧ Tidy verbose tl := by
  have hslash : '\\' ∉ taken := fun hmem => absurd (ht _ hmem) (by decide)
  have hspace : ∀ c, Unicode.isSpace c → c ∉ ['[', ']', '\\'] := by
    intro c hc hmem
    simp only [List.mem_cons, List.not_mem_nil, or_false] at hmem
    rcases hmem with rfl | rfl | rfl <;> exact absurd hc (by decide)
  obtain ⟨hgall, hrest⟩ : (∀ c ∈ g, c ∉ ['[', ']', '\\']) ∧ Tidy verbose (u ++ tl) := by
    cases hg with
    | none _ => exact ⟨by simp, htidy⟩
    | @caret b hb =>
      rw [List.append_assoc] at htidy
      obtain ⟨hs, hrest⟩ := hb.tidy htidy
      refine ⟨fun c hc => ?_, hrest.cons (by decide)⟩
      rcases List.mem_append.mp hc with hc | hc
      · exact hspace c (hs c hc)
      · rw [List.mem_singleton.mp hc]
        decide
  obtain ⟨huall, hrest⟩ := hu.tidy hslash hrest
  refine ⟨fun c hc => ?_, hrest⟩
  rcases List.mem_append.mp hc with hc | hc
  · exact hgall c hc
  · rcases huall c hc with hs | hs
    · exact hspace c hs
    · rw [ht c hs]
      decide

/-- Only blanks and carets stand before the first members, so a scan that sees no bracket lead
there sees none at all. -/
theorem Opening.passes {tl o : List Char} {b : Bracket} (h : Opening verbose tl o b)
    (ha : opensAlike verbose (o ++ tl)) (ht : Tidy verbose (o ++ tl)) :
    ∃ f', Passes v (inside k (n + 1) true) o (inside k (n + 1) f') ∧
      (f' = true → leadsForScan tl = false) ∧ Tidy verbose tl ∧ '\\' ∉ o := by
  obtain @⟨g, l, negated, items, hg, hl⟩ := h
  have hclass : leadsForClass verbose (g ++ l ++ tl) = (upcoming verbose (l ++ tl) == some ']') := by
    unfold leadsForClass
    rw [List.append_assoc, negation_complete hg]
    rfl
  unfold opensAlike at ha
  rw [hclass, beq_iff_eq] at ha
  cases hl with
  | @bracket b c hb hnext =>
    have hup : upcoming verbose (b ++ [']'] ++ tl) = some ']' := by
      rw [List.append_assoc, upcoming, List.singleton_append,
        hb.skip_cons (by cases verbose <;> decide)]
      rfl
    rw [hup] at ha
    have hmem := Opening.passes_bracket hg hb (by rw [ha]; rfl)
    simp only [List.mem_cons, List.not_mem_nil, or_false] at hmem
    rcases hmem with htext | htext
    · rw [htext] at ht ⊢
      exact ⟨false, passes_first, by simp, Tidy.cons (by decide) ht, by decide⟩
    · rw [htext] at ht ⊢
      exact ⟨false, passes_caret.append passes_first, by simp,
        Tidy.cons (by decide) (Tidy.cons (by decide) ht), by decide⟩
  | @hyphens _ taken c hu hhyphen hnext hc hne =>
    rw [List.append_assoc] at ht
    obtain ⟨hall, htidy⟩ := Opening.passes_hyphens hg hu hhyphen ht
    refine ⟨true && (g ++ l).all (· == '^'), passes_inside hall, fun hf => ?_, htidy,
      fun hmem => hall _ hmem (by simp)⟩
    rw [Bool.true_and] at hf
    have hsolid : ∀ c ∈ taken, isSolid verbose c := by
      intro c hc
      rw [hhyphen c hc]
      cases verbose <;> decide
    rw [← leadsForScan_append hf, ha, upcoming_spaced hu hsolid]
    cases taken with
    | nil => simpa [hnext] using hne rfl
    | cons d taken =>
      obtain rfl := hhyphen d (List.mem_cons_self ..)
      rfl

theorem named_chars {m : List Char} {ks : AsciiClass} (negated : Bool)
    (h : asciiClass? m = some ks) :
    ∀ c ∈ ':' :: (caret negated ++ (m ++ [':'])), c ∉ ['[', ']', '\\'] := by
  have hlower := isLower_of_asciiClass? h
  intro c hc hmem
  simp only [List.mem_cons, List.mem_append, List.not_mem_nil, or_false] at hc hmem
  rcases hc with hc | hc | hc | hc
  · rcases hmem with hmem | hmem | hmem <;> rw [hmem] at hc <;> exact absurd hc (by decide)
  · cases negated with
    | false => simp [caret] at hc
    | true =>
      simp only [caret, if_true, List.mem_singleton] at hc
      rcases hmem with hmem | hmem | hmem <;> rw [hmem] at hc <;> exact absurd hc (by decide)
  · have := hlower c hc
    rcases hmem with hmem | hmem | hmem <;> rw [hmem] at this <;> exact absurd this (by decide)
  · rcases hmem with hmem | hmem | hmem <;> rw [hmem] at hc <;> exact absurd hc (by decide)

theorem named_eq (negated : Bool) (m : List Char) :
    named negated m = ':' :: (caret negated ++ (m ++ [':'])) ++ [']'] := by
  simp [named]

theorem passes_named {m : List Char} {ks : AsciiClass} (negated : Bool)
    (h : asciiClass? m = some ks) :
    Passes v (inside k (n + 1) f) ('[' :: named negated m) (inside k (n + 1) false) := by
  have hopen : Passes v (inside k (n + 1) f) ['['] (inside k (n + 2) true) :=
    .cons_none rfl .nil
  have hclose : Passes v (inside k (n + 2) false) [']'] (inside k (n + 1) false) :=
    .cons_none rfl .nil
  rw [named_eq, ← List.singleton_append]
  refine hopen.append (.append (t := inside k (n + 2) false) ?_ hclose)
  have := passes_inside (v := v) (k := k) (n := n + 1) (f := true) (named_chars negated h)
  simpa using this

theorem startsMember_head {c : Char} {cs : List Char} (h : startsMember (c :: cs)) :
    c ∉ ['[', ']'] := by
  simp only [startsMember, Bool.and_eq_true, bne_iff_ne, ne_eq] at h
  simp only [List.mem_cons, List.not_mem_nil, or_false, not_or]
  exact h.1

theorem hasPlainName_of_agrees {cs : List Char} {m : ClassSet}
    (h : (Piece.member m).agrees verbose cs) : m.hasPlainName := by
  unfold Piece.agrees at h
  split at h
  · contradiction
  · rename_i heq
    cases heq
    rfl
  · rename_i heq
    cases heq
    exact h
  · rename_i hmember
    exact absurd rfl (hmember m)

theorem passes_spaces {b : List Char} (h : ∀ c ∈ b, Unicode.isSpace c) :
    Passes v (inside k (n + 1) f) b (inside k (n + 1) (f && b.all (· == '^'))) := by
  refine passes_inside fun c hc hmem => ?_
  have := h c hc
  simp only [List.mem_cons, List.not_mem_nil, or_false] at hmem
  rcases hmem with rfl | rfl | rfl <;> exact absurd this (by decide)

/-- The last item of a range is no bare bracket if the pieces agree. -/
theorem range_agrees {u b₁ b₂ x tl : List Char} {a b : Ast} {r : ClassSet}
    (hu : Item verbose u a) (hb₁ : Blank verbose b₁) (hb₂ : Blank verbose b₂)
    (hsolid : x.head?.all (isSolid verbose)) (hr : range? a b = some r)
    (ha : (Piece.member r).agrees verbose (u ++ (b₁ ++ '-' :: (b₂ ++ x)) ++ tl)) :
    ∀ c, x = [c] → c ∉ ['[', ']'] := by
  rintro c rfl
  have hc : isSolid verbose c := by simpa using hsolid
  have htext : u ++ (b₁ ++ '-' :: (b₂ ++ [c])) ++ tl = u ++ (b₁ ++ '-' :: (b₂ ++ c :: tl)) := by
    simp
  obtain ⟨mid, hmid, htrim⟩ := hu.reads (isMember_of_range? hr).1 (b₁ ++ '-' :: (b₂ ++ c :: tl))
  have hend : rangeEnd? verbose (u ++ (b₁ ++ '-' :: (b₂ ++ [c])) ++ tl) = some c := by
    unfold rangeEnd?
    rw [htext, hmid]
    simp only
    rw [htrim.skip, hb₁.skip_cons (by cases verbose <;> decide)]
    simp only
    rw [upcoming, hb₂.skip_cons hc]
    rfl
  obtain ⟨-, -, first, last, rfl⟩ := hasPlainName_of_range? hr
  simp only [Piece.agrees, hend, Bool.and_eq_true, bne_iff_ne, ne_eq, Option.some.injEq] at ha
  simpa using ha

/-- A scan passes over a member without closing a bracket. -/
theorem Morsel.passes_member {tl w : List Char} {m : ClassSet}
    (h : Morsel verbose tl w (.member m)) (ha : (Piece.member m).agrees verbose (w ++ tl))
    (ht : Tidy verbose (w ++ tl)) (hf : f = true → leadsForScan (w ++ tl) = false) :
    ∃ f', Passes v (inside k (n + 1) f) w (inside k (n + 1) f') ∧
      (f' = true → leadsForScan tl = false) ∧ Tidy verbose tl := by
  cases h with
  | @named m' ks negated hk =>
    refine ⟨false, passes_named negated hk, by simp, ?_⟩
    rw [named_eq] at ht
    have hname : ∀ c ∈ ':' :: (caret negated ++ (m' ++ [':'])), c ≠ '\\' := by
      rintro c hc rfl
      exact named_chars negated hk _ hc (by simp)
    refine Tidy.append (w := '[' :: (':' :: (caret negated ++ (m' ++ [':'])) ++ [']'])) ?_ ht
    intro c hc
    simp only [List.mem_cons (a := c) (b := '['), List.mem_append (s := _ :: _),
      List.mem_singleton] at hc
    rcases hc with rfl | hc | rfl
    · decide
    · exact hname c hc
    · decide
  | @single u a m hu hm hs hr =>
    have hplain := hasPlainName_of_member? hm (hasPlainName_of_agrees ha)
    obtain ⟨c, z, rfl⟩ := hu.cons
    obtain ⟨f', hpass, hfresh, htidy⟩ :=
      hu.passes (v := v) (k := k) (n := n) (f := f) hplain (by
        intro d hd
        obtain ⟨rfl, -⟩ := List.cons.inj hd
        exact startsMember_head hs) ht
    refine ⟨f', hpass, fun hf' => ?_, htidy⟩
    obtain ⟨hft, htext⟩ := hfresh hf'
    rw [← leadsForScan_append (w := ['^']) (by decide), ← htext]
    exact hf hft
  | @range u b₁ b₂ x a b r hu hb₁ hb₂ hx hsolid hr hs hafter =>
    have hend := range_agrees hu hb₁ hb₂ hsolid hr ha
    obtain ⟨hpa, hpb, -⟩ := hasPlainName_of_range? hr
    have htext : u ++ (b₁ ++ '-' :: (b₂ ++ x)) ++ tl = u ++ (b₁ ++ '-' :: (b₂ ++ (x ++ tl))) := by
      simp
    rw [htext] at ht
    obtain ⟨c, z, rfl⟩ := hu.cons
    obtain ⟨f₁, h₁, -, ht⟩ :=
      hu.passes (v := v) (k := k) (n := n) (f := f) hpa (by
        intro d hd
        obtain ⟨rfl, -⟩ := List.cons.inj hd
        exact startsMember_head hs) ht
    obtain ⟨hs₁, ht⟩ := hb₁.tidy ht
    obtain ⟨hs₂, ht⟩ := hb₂.tidy (ht.cons (by decide))
    obtain ⟨f₂, h₂, hf₂, ht⟩ :=
      hx.passes (v := v) (k := k) (n := n) (f := false) hpb hend ht
    refine ⟨f₂, h₁.append ((passes_spaces hs₁).append (.cons_none (next_inside (by decide)) ?_)),
      fun hf' => absurd (hf₂ hf').1 (by simp), ht⟩
    have hblank := passes_spaces (v := v) (k := k) (n := n) (f := false) hs₂
    rw [Bool.false_and] at hblank
    simpa using hblank.append h₂

/-- What agreement up to the end of a class says of its next piece. -/
theorem agrees_step {b w tl : List Char} {piece : Piece} {depth : Nat} (hb : Blank verbose b)
    (hw : Morsel verbose tl w piece) (hsolid : w.head?.all (isSolid verbose))
    (hclosed : Closed verbose tl) (ha : agrees verbose depth (b ++ (w ++ tl))) :
    piece.agrees verbose (w ++ tl) ∧
      match piece, depth with
      | .closing, 0 => True
      | .closing, depth + 1 => agrees verbose depth tl
      | .opening _, depth => agrees verbose (depth + 1) tl
      | _, depth => agrees verbose depth tl := by
  obtain ⟨rest, hread, hrest⟩ := hw.read hb hsolid hclosed []
  have hskip : skipBlanks verbose (b ++ (w ++ tl)) = w ++ tl := by
    obtain ⟨c, z, rfl⟩ := List.exists_cons_of_ne_nil hw.ne_nil
    exact hb.skip_cons (by simpa using hsolid) (z ++ tl)
  rw [List.append_nil, hskip] at hread
  rw [List.append_nil] at hrest
  rw [agrees_eq, hskip, hread, Bool.and_eq_true] at ha
  refine ⟨ha.1, ?_⟩
  have hsame := agrees_congr hrest.skip
  cases piece with
  | member m => exact (hsame depth).symm.trans ha.2
  | opening br => exact (hsame (depth + 1)).symm.trans ha.2
  | operator op => exact (hsame depth).symm.trans ha.2
  | closing => cases hw

theorem close_passes {b : List Char} (hb : Blank verbose b) {cs : List Char}
    (ht : Tidy verbose (b ++ ']' :: cs)) (hf : f = true → leadsForScan (b ++ ']' :: cs) = false) :
    Passes v (inside k (n + 1) f) (b ++ [']'])
      { inside k n false with brackets := n } ∧ Tidy verbose cs := by
  obtain ⟨f₁, hpass, hfresh, htidy⟩ :=
    passes_blank (v := v) (k := k) (n := n) hb ht hf
  obtain rfl : f₁ = false := by
    cases f₁ with
    | false => rfl
    | true => exact absurd (hfresh rfl) (by simp [leadsForScan])
  exact ⟨hpass.append (.cons_none rfl .nil), htidy.cons (by decide)⟩

theorem passes_operator {c : Char} {op : ClassOp} (h : operator? c = some op) :
    Passes v (inside k (n + 1) f) [c, c] (inside k (n + 1) false) ∧ c ≠ '\\' := by
  have hc : c ∉ ['[', ']', '\\'] ∧ (c == '^') = false := by
    unfold operator? at h
    split at h <;> first | decide | exact absurd h (by simp)
  refine ⟨?_, fun heq => hc.1 (by simp [heq])⟩
  have := passes_inside (v := v) (k := k) (n := n) (f := f) (w := [c, c]) (by simpa using hc.1)
  simpa [hc.2] using this

/-- A scan leaves a class where the class ends. -/
theorem Run.passes {inner : Bracket} {outer : List Bracket} {u : List Char} {s : ClassSet}
    (h : Run verbose inner outer u s) (ha : agrees verbose outer.length u) (ht : Tidy verbose u)
    (hf : f = true → leadsForScan u = false) :
    Passes v (inside k (outer.length + 1) f) u (level k) := by
  induction h generalizing f with
  | @close b inner hb => exact (close_passes hb ht hf).1
  | @leave b tl inner o outer s hb hrun ih =>
    obtain ⟨hclose, htidy⟩ := close_passes (v := v) (k := k) (n := outer.length + 1)
      hb ht hf
    rw [agrees_eq, hb.skip_cons (by cases verbose <;> decide)] at ha
    have := hclose.append (ih ha htidy (f := false) (by simp))
    simpa using this
  | @enter b w tl inner br outer s hb hw hrun ih =>
    have hsolid : w.head?.all (isSolid verbose) := by
      cases hw
      cases verbose <;> rfl
    obtain ⟨hpiece, hrest⟩ := agrees_step hb hw hsolid hrun.closed ha
    obtain ⟨f₁, hblank, hf₁, ht⟩ := passes_blank (v := v) (k := k) hb ht hf
    cases hw with
    | @opening o _ ho hnone =>
      obtain ⟨f₂, hopen, hf₂, ht, -⟩ := ho.passes (v := v) (k := k)
        (n := outer.length + 1) (by simpa [Piece.agrees] using hpiece)
        (Tidy.cons (c := '[') (by decide) ht)
      exact hblank.append (.cons_none rfl (hopen.append (ih hrest ht hf₂)))
  | @member b w tl inner outer m s hb hw hsolid hrun ih =>
    obtain ⟨hpiece, hrest⟩ := agrees_step hb hw hsolid hrun.closed ha
    obtain ⟨f₁, hblank, hf₁, ht⟩ := passes_blank (v := v) (k := k) hb ht hf
    obtain ⟨f₂, hmember, hf₂, ht⟩ :=
      hw.passes_member (v := v) (k := k) (n := outer.length) hpiece ht hf₁
    exact hblank.append (hmember.append (ih hrest ht hf₂))
  | @operator b w tl inner outer op s hb hw hrun ih =>
    cases hw with
    | @operator c _ hop =>
      have hsolid : isSolid verbose c := isSolid_of_operator? hop
      obtain ⟨-, hrest⟩ := agrees_step hb (.operator hop) (by simpa using hsolid) hrun.closed ha
      obtain ⟨f₁, hblank, hf₁, ht⟩ := passes_blank (v := v) (k := k) hb ht hf
      obtain ⟨htwo, hslash⟩ := passes_operator (v := v) (k := k) (n := outer.length) (f := f₁) hop
      exact hblank.append (htwo.append (ih hrest ((ht.cons hslash).cons hslash) (by simp)))

end Bracket
end Gazetteer.Regex
