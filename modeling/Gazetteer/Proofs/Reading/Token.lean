import Gazetteer.Regex.Token
import Gazetteer.Proofs.Reading.ClassRun

/-! What a token takes.

A `Lexeme` is the text of one token. Where a token ends may depend on the text that comes next,
though only on little of it: a question mark could continue it, or the name of a word edge. The
reader of tokens takes exactly the lexemes (`Token.read_sound` and `Token.read_complete`). -/
namespace Gazetteer.Regex

open Pattern.Outline (Passes Inert isOrdinary level)

namespace Token

/-! ### Groups -/

/-- Whether the name that the token holds, if any, tells a scan nothing. -/
def hasPlainName : Token → Bool
  | .openGroup (.capture (some name)) => name.toList.all isOrdinary
  | .atom a => a.hasPlainName
  | _ => true

/-- The number of parentheses that are open after the token, if there are `k` before it. -/
def depthAfter (k : Nat) : Token → Nat
  | .openGroup _ => k + 1
  | .closeGroup => k - 1
  | _ => k

/-- The text `h` behind an opening parenthesis, from the question mark on, makes it the token
`t`. -/
structure Head (h : List Char) (t : Token) : Prop where
  head : h.head? = some '?'
  reads : ∀ tail, readGroup (h ++ tail) = some (t, tail)
  passes : t.hasPlainName → ∀ verbose k,
    Passes verbose (level (k + 1)) h (level (t.depthAfter k))
  slash : t.hasPlainName → '\\' ∉ h
  /-- It holds neither the end of a line nor the sign of a comment. -/
  unbroken : '\n' ∉ h ∧ '#' ∉ h

theorem flag?_ne_none {c : Char} (h : flag? c ≠ none) :
    c ∈ ['i', 'm', 's', 'U', 'u', 'R', 'x'] := by
  unfold flag? at h
  split at h
  all_goals first
    | decide
    | exact absurd rfl h

theorem readFlags_local {negated afterHyphen colon : Bool} {seen changes : FlagChanges}
    {cs rest : List Char} (h : readFlags negated afterHyphen seen cs = some (changes, colon, rest)) :
    ∃ f, cs = f ++ (if colon then ':' else ')') :: rest ∧
      (∀ c ∈ f, c ∈ ['-', 'i', 'm', 's', 'U', 'u', 'R', 'x']) ∧
      ∀ tail, readFlags negated afterHyphen seen (f ++ (if colon then ':' else ')') :: tail) =
        some (changes, colon, tail) := by
  induction cs generalizing negated afterHyphen seen with
  | nil => exact absurd h (by simp [readFlags])
  | cons c cs ih =>
    simp only [readFlags] at h
    split at h
    · rename_i hc
      split at h
      · exact absurd h (by simp)
      · rename_i hhyphen
        simp only [Option.some.injEq, Prod.mk.injEq] at h
        obtain ⟨rfl, rfl, rfl⟩ := h
        have hmark : c = if (c == ':') = true then ':' else ')' := by
          simp only [Bool.or_eq_true, beq_iff_eq] at hc
          rcases hc with rfl | rfl <;> rfl
        refine ⟨[], by rw [← hmark]; rfl, by simp, fun tail => ?_⟩
        rw [List.nil_append, ← hmark, readFlags, if_pos hc, if_neg hhyphen]
    · rename_i hc
      split at h
      · rename_i hminus
        split at h
        · exact absurd h (by simp)
        · rename_i hneg
          obtain ⟨f, rfl, hf, hlocal⟩ := ih h
          refine ⟨c :: f, rfl, ?_, fun tail => ?_⟩
          · intro d hd
            rcases List.mem_cons.mp hd with rfl | hd
            · simp only [beq_iff_eq] at hminus
              simp [hminus]
            · exact hf d hd
          · rw [List.cons_append, readFlags, if_neg hc, if_pos hminus, if_neg hneg, hlocal]
      · rename_i hminus
        split at h
        · exact absurd h (by simp)
        · rename_i flag hflag
          split at h
          · exact absurd h (by simp)
          · rename_i hseen
            obtain ⟨f, rfl, hf, hlocal⟩ := ih h
            refine ⟨c :: f, rfl, ?_, fun tail => ?_⟩
            · intro d hd
              rcases List.mem_cons.mp hd with rfl | hd
              · exact List.mem_cons_of_mem _ (flag?_ne_none (by simp [hflag]))
              · exact hf d hd
            · rw [List.cons_append, readFlags, if_neg hc, if_neg hminus, hflag]
              simp only
              rw [if_neg hseen, hlocal]

theorem readName_local {cs rest : List Char} {name : String}
    (h : readName cs = some (name, rest)) :
    ∃ c n, cs = c :: n ++ '>' :: rest ∧ name = .ofList (c :: n) ∧ isNameStart c ∧
      n.all isNamePart ∧ ∀ tail, readName (c :: n ++ '>' :: tail) = some (name, tail) := by
  unfold readName at h
  split at h
  · rename_i first others rest' htake hdrop
    split at h
    · rename_i hvalid
      obtain ⟨rfl, rfl⟩ := Prod.mk.inj (Option.some.inj h)
      have htext := List.takeWhile_append_dropWhile (p := (· != '>')) (l := cs)
      rw [htake, hdrop] at htext
      have htest : ∀ d ∈ first :: others, (d != '>') = true := by
        rw [← htake]
        exact fun d hd => List.all_eq_true.mp List.all_takeWhile d hd
      have hvalid' := hvalid
      rw [Bool.and_eq_true] at hvalid
      refine ⟨first, others, htext.symm, rfl, hvalid.1, hvalid.2, fun tail => ?_⟩
      unfold readName
      rw [dropWhile_append_cons htest (by decide), List.takeWhile_append_of_pos htest,
        List.takeWhile_cons_of_neg (by decide), List.append_nil]
      simp only
      rw [if_pos hvalid']
    · exact absurd h (by simp)
  · exact absurd h (by simp)

theorem readGroup_capture {cs : List Char} (h : cs.head? ≠ some '?') :
    readGroup cs = some (.openGroup (.capture none), cs) := by
  unfold readGroup
  split
  case h_8 => rfl
  all_goals exact absurd rfl h

theorem readGroup_name {p x : List Char} {c : Char} (hp : p = ['?', 'P', '<'] ∨ p = ['?', '<'])
    (hc : isNameStart c) :
    readGroup (p ++ c :: x) =
      (readName (c :: x)).map fun (name, rest) => (.openGroup (.capture (some name)), rest) := by
  rcases hp with rfl | rfl
  · rfl
  · show readGroup ('?' :: '<' :: c :: x) = _
    unfold readGroup
    split
    case h_6 heq =>
      obtain rfl := (List.cons.inj (List.cons.inj heq).2).2
      rfl
    case h_3 heq =>
      obtain ⟨rfl, -⟩ := List.cons.inj (List.cons.inj (List.cons.inj heq).2).2
      exact absurd hc (by decide)
    case h_4 heq =>
      obtain ⟨rfl, -⟩ := List.cons.inj (List.cons.inj (List.cons.inj heq).2).2
      exact absurd hc (by decide)
    case h_7 hname heq => exact absurd (List.cons.inj heq).2.symm (hname _)
    case h_8 hquestion => exact absurd rfl (hquestion _)
    all_goals
      rename_i heq
      exact absurd (List.cons.inj (List.cons.inj heq).2).1 (by decide)

theorem readGroup_flags {x : List Char}
    (hx : ∀ c ∈ ['=', '!', '<', 'P'], x.head? ≠ some c) :
    readGroup ('?' :: x) =
      match readFlags false false [] x with
      | none => none
      | some (changes, true, rest) => some (.openGroup (.plain changes), rest)
      | some (changes, false, rest) =>
        if changes.isEmpty then none else some (.flags changes, rest) := by
  unfold readGroup
  split
  case h_7 heq =>
    obtain rfl := (List.cons.inj heq).2
    rfl
  case h_8 hquestion => exact absurd rfl (hquestion _)
  all_goals
    rename_i heq
    obtain rfl := (List.cons.inj heq).2
    exact absurd rfl (hx _ (by simp))

theorem isNamePart_unbroken : isNamePart '\n' = false ∧ isNamePart '#' = false := by
  unfold isNamePart Unicode.isAlphanumeric
  rw [Unicode.Category.anyContains_number_of_lt (c := '\n') (by decide),
    Unicode.Category.anyContains_number_of_lt (c := '#') (by decide)]
  decide

theorem unbroken_of_isNamePart {n : List Char} (h : n.all isNamePart) : '\n' ∉ n ∧ '#' ∉ n := by
  have hpart := List.all_eq_true.mp h
  exact ⟨fun hmem => absurd (hpart _ hmem) (by simp [isNamePart_unbroken.1]),
    fun hmem => absurd (hpart _ hmem) (by simp [isNamePart_unbroken.2])⟩

theorem isNamePart_of_isNameStart {c : Char} (h : isNameStart c) : isNamePart c := by
  unfold isNamePart Unicode.isAlphanumeric
  rcases Bool.or_eq_true_iff.mp h with hc | hc
  · simp [hc]
  · simp [hc]

theorem head_of_readName {p cs rest : List Char} {name : String}
    (hp : p = ['?', 'P', '<'] ∨ p = ['?', '<']) (h : readName cs = some (name, rest)) :
    ∃ h, p ++ cs = h ++ rest ∧ Head h (.openGroup (.capture (some name))) := by
  obtain ⟨c, n, rfl, rfl, hc, hn, hlocal⟩ := readName_local h
  have hall : Token.hasPlainName (.openGroup (.capture (some (.ofList (c :: n))))) →
      ∀ d ∈ p ++ (c :: n ++ ['>']), isOrdinary d := by
    intro hord d hd
    simp only [hasPlainName, String.toList_ofList, List.all_eq_true] at hord
    simp only [List.mem_append, List.mem_singleton] at hd
    rcases hd with hd | hd | rfl
    · have hall : p.all isOrdinary := by rcases hp with rfl | rfl <;> decide
      exact List.all_eq_true.mp hall d hd
    · exact hord d hd
    · decide
  have hunbroken : '\n' ∉ c :: n ∧ '#' ∉ c :: n := by
    refine unbroken_of_isNamePart ?_
    rw [List.all_cons, hn, isNamePart_of_isNameStart hc]
    rfl
  refine ⟨p ++ (c :: n ++ ['>']), by simp, ⟨?_, fun tail => ?_, fun hord verbose k => ?_, ?_, ?_⟩⟩
  · rcases hp with rfl | rfl <;> rfl
  · have htext : p ++ (c :: n ++ ['>']) ++ tail = p ++ c :: (n ++ '>' :: tail) := by simp
    rw [htext, readGroup_name hp hc]
    have := hlocal tail
    rw [List.cons_append] at this
    rw [this]
    rfl
  · exact (Pattern.Outline.Inert.of_forall (hall hord) (k + 1)).toPasses
  · exact fun hord hmem => absurd (hall hord '\\' hmem) (by decide)
  · simp only [List.mem_append, not_or]
    rcases hp with rfl | rfl
    · exact ⟨⟨by decide, hunbroken.1, by decide⟩, ⟨by decide, hunbroken.2, by decide⟩⟩
    · exact ⟨⟨by decide, hunbroken.1, by decide⟩, ⟨by decide, hunbroken.2, by decide⟩⟩

/-- Flags with the mark after them, read behind a question mark. -/
theorem head_of_readFlags {cs rest : List Char} {changes : FlagChanges} {colon : Bool} {t : Token}
    (h : readFlags false false [] cs = some (changes, colon, rest))
    (ht : t = if colon then .openGroup (.plain changes) else .flags changes)
    (hne : colon = false → changes.isEmpty = false) :
    ∃ h, '?' :: cs = h ++ rest ∧ Head h t := by
  obtain ⟨f, rfl, hf, hlocal⟩ := readFlags_local h
  refine ⟨'?' :: (f ++ [if colon then ':' else ')']), by simp, ⟨rfl, fun tail => ?_, ?_, ?_, ?_⟩⟩
  · have htext : '?' :: (f ++ [if colon then ':' else ')']) ++ tail =
        '?' :: (f ++ (if colon then ':' else ')') :: tail) := by simp
    rw [htext, readGroup_flags, hlocal tail]
    · subst ht
      cases colon with
      | true => rfl
      | false =>
        simp only
        rw [if_neg (by simp [hne rfl])]
        rfl
    · intro c hc hhead
      cases f with
      | nil => cases colon <;> simp at hhead <;> subst hhead <;> exact absurd hc (by decide)
      | cons d f =>
        obtain rfl : d = c := by simpa using hhead
        have := hf d (List.mem_cons_self ..)
        revert hc this
        simp only [List.mem_cons, List.not_mem_nil, or_false]
        rintro (rfl | rfl | rfl | rfl) <;> decide
  · intro _ verbose k
    have hord : ∀ c ∈ '?' :: f, isOrdinary c := by
      intro c hc
      rcases List.mem_cons.mp hc with rfl | hc
      · decide
      · have hall : ∀ d ∈ ['-', 'i', 'm', 's', 'U', 'u', 'R', 'x'], isOrdinary d :=
          List.all_eq_true.mp (by decide)
        exact hall c (hf c hc)
    rw [← List.cons_append]
    refine (Pattern.Outline.Inert.of_forall hord (k + 1)).toPasses.append ?_
    subst ht
    cases colon with
    | true =>
      have hall := List.all_eq_true.mp (by decide : [':'].all isOrdinary)
      exact (Pattern.Outline.Inert.of_forall hall (k + 1)).toPasses
    | false => exact .single rfl rfl
  · intro _ hmem
    simp only [List.mem_cons, List.mem_append, List.not_mem_nil, or_false] at hmem
    rcases hmem with hmem | hmem | hmem
    · exact absurd hmem (by decide)
    · exact absurd (hf _ hmem) (by decide)
    · cases colon <;> exact absurd hmem (by decide)
  · simp only [List.mem_cons, List.mem_append, List.not_mem_nil, or_false, not_or]
    refine ⟨⟨by decide, fun hmem => absurd (hf _ hmem) (by decide), ?_⟩,
      ⟨by decide, fun hmem => absurd (hf _ hmem) (by decide), ?_⟩⟩
    · cases colon <;> decide
    · cases colon <;> decide

theorem readGroup_sound {cs rest : List Char} {t : Token} (h : readGroup cs = some (t, rest)) :
    (t = .openGroup (.capture none) ∧ rest = cs ∧ cs.head? ≠ some '?') ∨
      ∃ h, cs = h ++ rest ∧ Head h t := by
  unfold readGroup at h
  split at h
  iterate 4 · exact absurd h (by simp)
  · obtain ⟨⟨name, rest'⟩, hname, heq⟩ := Option.map_eq_some_iff.1 h
    obtain ⟨rfl, rfl⟩ := Prod.mk.inj heq
    exact .inr (head_of_readName (.inl rfl) hname)
  · obtain ⟨⟨name, rest'⟩, hname, heq⟩ := Option.map_eq_some_iff.1 h
    obtain ⟨rfl, rfl⟩ := Prod.mk.inj heq
    exact .inr (head_of_readName (.inr rfl) hname)
  · split at h
    · exact absurd h (by simp)
    · rename_i hflags
      obtain ⟨rfl, rfl⟩ := Prod.mk.inj (Option.some.inj h)
      exact .inr (head_of_readFlags hflags rfl (by simp))
    · rename_i hflags
      split at h
      · exact absurd h (by simp)
      · rename_i hempty
        obtain ⟨rfl, rfl⟩ := Prod.mk.inj (Option.some.inj h)
        exact .inr (head_of_readFlags hflags rfl fun _ => by simpa using hempty)
  · rename_i hquestion
    obtain ⟨rfl, rfl⟩ := Prod.mk.inj (Option.some.inj h)
    refine .inl ⟨rfl, rfl, fun hhead => ?_⟩
    obtain ⟨x, hx⟩ := List.head?_eq_some_iff.mp hhead
    exact hquestion x hx

/-! ### Repetitions -/

/-- The text `k` behind an opening brace gives the counts of a repetition. -/
structure Counts (verbose : Bool) (k : List Char) (least : Nat) (most : Option Nat) : Prop where
  reads : ∀ tail, readCounts verbose (k ++ tail) = some (least, most, tail)
  inert : Inert verbose k
  edge : ∀ tail, Escape.endsBoundary verbose ('{' :: (k ++ tail)) = true

theorem isAlpha_eq_false {c : Char} (h : Unicode.isSpace c ∨ c.isDigit) :
    (c.isAlpha || c == '-') = false := by
  cases halpha : c.isAlpha || c == '-' with
  | false => rfl
  | true =>
    exfalso
    have hA : 'A'.val.toNat = 65 := rfl
    have hZ : 'Z'.val.toNat = 90 := rfl
    have ha : 'a'.val.toNat = 97 := rfl
    have hz : 'z'.val.toNat = 122 := rfl
    have h9 : '9'.val.toNat = 57 := rfl
    have hval : c.val.toNat = c.toNat := rfl
    have halpha : ((decide (c.val ≥ 'A'.val ∧ c.val ≤ 'Z'.val) ||
        (c.val ≥ 'a'.val && c.val ≤ 'z'.val)) || c == '-') = true := halpha
    simp only [Bool.or_eq_true, Bool.and_eq_true, decide_eq_true_eq, beq_iff_eq, ge_iff_le,
      UInt32.le_iff_toNat_le] at halpha
    rcases halpha with halpha | rfl
    · have hcode : 65 ≤ c.toNat ∧ c.toNat ≤ 122 := by omega
      rcases h with h | h
      · simp only [Unicode.isSpace, Unicode.isAscii, Unicode.isAsciiSpace,
          show c.toNat < 128 by omega, decide_true, if_true, Bool.or_eq_true, beq_iff_eq,
          Bool.and_eq_true, decide_eq_true_eq] at h
        rcases h with rfl | h
        · exact absurd hcode (by decide)
        · omega
      · simp only [Char.isDigit, Bool.and_eq_true, decide_eq_true_eq, ge_iff_le,
          UInt32.le_iff_toNat_le] at h
        omega
    · rcases h with h | h <;> exact absurd h (by decide)

/-- A count begins with a digit or a blank. -/
theorem head_of_readCount {verbose : Bool} {cs rest : List Char} {n : Nat}
    (h : readCount verbose cs = some (n, rest)) :
    ∃ d x, cs = d :: x ∧ (d.isAlpha || d == '-') = false := by
  cases cs with
  | nil => exact absurd h (by simp [readCount, spanBlanks])
  | cons d x =>
    refine ⟨d, x, rfl, isAlpha_eq_false ?_⟩
    by_cases hs : Unicode.isSpace d
    · exact .inl hs
    · by_cases hd : d.isDigit
      · exact .inr hd
      · unfold readCount at h
        rw [List.dropWhile_cons_of_neg hs, spanBlanks, if_neg hd] at h
        exact absurd h (by simp)

/-- Assembles the counts from a first count and what comes after it. -/
theorem Counts.of_first {verbose : Bool} {b u k : List Char} {c : Char} {n least : Nat}
    {most : Option Nat} (hb : Blank verbose b)
    (hskip : ∀ tail, skipBlanks verbose (b ++ (u ++ c :: tail)) = u ++ c :: tail)
    (hu : Inert verbose u) (hc : isOrdinary c) (hk : Inert verbose k)
    (hfirst : ∀ tail, readCount verbose (u ++ c :: tail) = some (n, c :: tail))
    (hreads : ∀ tail, readCounts verbose (b ++ (u ++ c :: (k ++ tail))) = some (least, most, tail)) :
    Counts verbose (b ++ (u ++ c :: k)) least most := by
  refine ⟨fun tail => ?_, hb.inert.append (hu.append (.cons hc hk)), fun tail => ?_⟩
  · rw [List.append_assoc, List.append_assoc, List.cons_append]
    exact hreads tail
  · obtain ⟨d, x, hx, hd⟩ := head_of_readCount (hfirst tail)
    have hhead : ∃ y, u ++ c :: (k ++ tail) = d :: y := by
      cases u with
      | nil =>
        obtain ⟨rfl, -⟩ := List.cons.inj hx
        exact ⟨_, rfl⟩
      | cons e u =>
        obtain ⟨rfl, -⟩ := List.cons.inj hx
        exact ⟨_, rfl⟩
    obtain ⟨y, hy⟩ := hhead
    rw [List.append_assoc, List.append_assoc, List.cons_append, Escape.endsBoundary, hskip, hy]
    simp only
    rw [hd]
    rfl

theorem readCounts_local {verbose : Bool} {cs rest : List Char} {least : Nat} {most : Option Nat}
    (h : readCounts verbose cs = some (least, most, rest)) :
    ∃ k, cs = k ++ rest ∧ Counts verbose k least most := by
  have hbrace : isOrdinary '}' := by decide
  have hcomma : isOrdinary ',' := by decide
  unfold readCounts at h
  obtain ⟨⟨n, mid⟩, hleast, hthen⟩ := Option.bind_eq_some_iff.1 h
  simp only at hthen
  split at hthen
  · obtain ⟨rfl, rfl, rfl⟩ : n = least ∧ some n = most ∧ _ = rest := by simpa using hthen
    obtain ⟨u, hu, hinert, hlocal⟩ := readCount_local hleast
    obtain ⟨b, rfl, hb, hskip⟩ := skipBlanks_split_append hu
    refine ⟨b ++ (u ++ ['}']), by simp,
      .of_first hb hskip hinert hbrace .nil hlocal fun tail => ?_⟩
    unfold readCounts
    rw [hskip, List.nil_append, hlocal]
    rfl
  · rename_i mid'
    obtain ⟨u, hu, hinert, hlocal⟩ := readCount_local hleast
    obtain ⟨b, rfl, hb, hskip⟩ := skipBlanks_split_append hu
    split at hthen
    · rename_i rest' hclose
      obtain ⟨rfl, rfl, rfl⟩ : n = least ∧ none = most ∧ _ = rest := by simpa using hthen
      obtain ⟨b', rfl, hb', hsolid⟩ := skipBlanks_split_cons hclose
      refine ⟨b ++ (u ++ ',' :: (b' ++ ['}'])), by simp, .of_first hb hskip hinert hcomma
        (hb'.inert.append (.cons hbrace .nil)) hlocal fun tail => ?_⟩
      unfold readCounts
      rw [hskip, hlocal]
      simp only [Option.bind_eq_bind, Option.bind_some]
      rw [List.append_assoc, List.singleton_append, hb'.skip_cons hsolid]
      rfl
    · rename_i hopen
      obtain ⟨⟨m, mid''⟩, hmost, hthen⟩ := Option.bind_eq_some_iff.1 hthen
      simp only at hthen
      split at hthen
      · split at hthen
        · rename_i hle
          obtain ⟨rfl, rfl, rfl⟩ : n = least ∧ some m = most ∧ _ = rest := by simpa using hthen
          obtain ⟨u', hu', hinert', hlocal'⟩ := readCount_local hmost
          obtain ⟨b', rfl, hb', hskip'⟩ := skipBlanks_split_append hu'
          refine ⟨b ++ (u ++ ',' :: (b' ++ (u' ++ ['}']))), by simp, .of_first hb hskip hinert
            hcomma (hb'.inert.append (hinert'.append (.cons hbrace .nil))) hlocal
            fun tail => ?_⟩
          unfold readCounts
          rw [hskip, hlocal]
          simp only [Option.bind_eq_bind, Option.bind_some]
          rw [List.append_assoc, List.append_assoc, List.singleton_append, hskip']
          split
          · rename_i hclose
            cases u' with
            | nil => exact absurd hu' (hopen _)
            | cons e u' =>
              obtain ⟨rfl, -⟩ := List.cons.inj hclose
              exact absurd hu' (hopen _)
          · rw [hlocal']
            simp only [Option.bind_some]
            rw [if_pos hle]
            rfl
        · exact absurd hthen (by simp)
      · exact absurd hthen (by simp)
  · exact absurd hthen (by simp)

/-! ### Lexemes -/

/-- The counts that a repetition mark stands for. -/
def mark? : Char → Option (Nat × Option Nat)
  | '?' => some (0, some 1)
  | '*' => some (0, none)
  | '+' => some (1, none)
  | _ => none

/-- What a character says on its own, if it can stand alone. -/
def single? (c : Char) : Option Ast :=
  if ['(', ')', '|', '[', '?', '*', '+', '{', '\\'].contains c then none
  else match c with
    | '.' => some .dot
    | '^' => some (.assertion .startLine)
    | '$' => some (.assertion .endLine)
    | c => some (.literal c false)

/-- Whether verbosity is surely the same after the token. -/
def lasts : Token → Bool
  | .openGroup (.capture none) | .repetition _ _ _ | .atom _ => true
  | _ => false

/-- What the reader of tokens leaves of `tl` behind the token: blanks are dropped only if they
are blanks for the next token as well. -/
def Leaves (verbose : Bool) (t : Token) (tl rest : List Char) : Prop :=
  rest = tl ∨ t.lasts ∧ rest = skipBlanks verbose tl

theorem Leaves.of_trimmed {verbose : Bool} {t : Token} {tl rest : List Char} (ht : t.lasts)
    (h : Trimmed verbose tl rest) : Leaves verbose t tl rest :=
  h.imp_right fun heq => ⟨ht, heq⟩

/-- The text `w` is the token `t` if `tl` comes after it. -/
inductive Lexeme (verbose : Bool) (tl : List Char) : List Char → Token → Prop
  | capture (h : upcoming verbose tl ≠ some '?') :
    Lexeme verbose tl ['('] (.openGroup (.capture none))
  | group {b h : List Char} {t : Token} (hb : Blank verbose b) (hh : Head h t) :
    Lexeme verbose tl ('(' :: (b ++ h)) t
  | close : Lexeme verbose tl [')'] .closeGroup
  | bar : Lexeme verbose tl ['|'] .bar
  | set {o u : List Char} {b : Bracket} {s : ClassSet} (ho : Bracket.Opening verbose u o b)
    (hu : Bracket.Run verbose b [] u s) : Lexeme verbose tl ('[' :: (o ++ u)) (.atom (.set s))
  | many {c : Char} {least : Nat} {most : Option Nat} (hc : mark? c = some (least, most))
    (h : tl.head? ≠ some '?') : Lexeme verbose tl [c] (.repetition least most true)
  | few {c : Char} {least : Nat} {most : Option Nat} (hc : mark? c = some (least, most)) :
    Lexeme verbose tl [c, '?'] (.repetition least most false)
  | countedMany {k : List Char} {least : Nat} {most : Option Nat}
    (hk : Counts verbose k least most) (h : upcoming verbose tl ≠ some '?') :
    Lexeme verbose tl ('{' :: k) (.repetition least most true)
  | countedFew {k b : List Char} {least : Nat} {most : Option Nat}
    (hk : Counts verbose k least most) (hb : Blank verbose b) :
    Lexeme verbose tl ('{' :: (k ++ (b ++ ['?']))) (.repetition least most false)
  | escape {e : List Char} {a : Ast} (he : Escape.Spells verbose e a)
    (h : e = ['b'] → Escape.endsBoundary verbose tl = true) :
    Lexeme verbose tl ('\\' :: e) (.atom a)
  | single {c : Char} {a : Ast} (hc : single? c = some a) : Lexeme verbose tl [c] (.atom a)

theorem repeated_many {cs : List Char} (h : cs.head? ≠ some '?') (least : Nat)
    (most : Option Nat) : repeated least most cs = (.repetition least most true, cs) := by
  unfold repeated readLazy
  split
  rename_i heq
  split at heq
  · exact absurd rfl h
  · obtain ⟨rfl, rfl⟩ := Prod.mk.inj heq
    rfl

theorem lexeme_of_mark {verbose : Bool} {c : Char} {least : Nat} {most : Option Nat}
    {cs rest : List Char} {t : Token} (hc : mark? c = some (least, most))
    (h : repeated least most cs = (t, rest)) :
    ∃ w tl, c :: cs = w ++ tl ∧ Leaves verbose t tl rest ∧ Lexeme verbose tl w t := by
  by_cases hhead : cs.head? = some '?'
  · obtain ⟨tl, rfl⟩ := List.head?_eq_some_iff.mp hhead
    obtain ⟨rfl, rfl⟩ := Prod.mk.inj h
    exact ⟨[c, '?'], tl, rfl, .inl rfl, .few hc⟩
  · rw [repeated_many hhead] at h
    obtain ⟨rfl, rfl⟩ := Prod.mk.inj h
    exact ⟨[c], cs, rfl, .inl rfl, .many hc hhead⟩

/-- What was read as a token is a lexeme. -/
theorem read_sound {verbose : Bool} {cs rest : List Char} {t : Token}
    (h : read verbose cs = some (t, rest)) :
    ∃ w tl, cs = w ++ tl ∧ Leaves verbose t tl rest ∧ Lexeme verbose tl w t := by
  unfold read at h
  split at h
  case h_1 => exact absurd h (by simp)
  case h_2 cs =>
    rcases readGroup_sound h with ⟨rfl, rfl, hhead⟩ | ⟨hd, htext, hh⟩
    · exact ⟨['('], cs, rfl, .inr ⟨rfl, rfl⟩, .capture hhead⟩
    · have hskip : skipBlanks verbose cs ≠ [] := by
        obtain ⟨x, rfl⟩ := List.head?_eq_some_iff.mp hh.head
        simp [htext]
      obtain ⟨b, hb, hblank⟩ := skipBlanks_split _ _ hskip
      rw [htext] at hb
      exact ⟨'(' :: (b ++ hd), rest, by rw [hb]; simp, .inl rfl, .group hblank hh⟩
  case h_3 cs =>
    obtain ⟨rfl, rfl⟩ := Prod.mk.inj (Option.some.inj h)
    exact ⟨[')'], cs, rfl, .inl rfl, .close⟩
  case h_4 cs =>
    obtain ⟨rfl, rfl⟩ := Prod.mk.inj (Option.some.inj h)
    exact ⟨['|'], cs, rfl, .inl rfl, .bar⟩
  case h_5 cs =>
    obtain ⟨⟨b, mid⟩, hopen, h⟩ := Option.bind_eq_some_iff.1 h
    obtain ⟨⟨s, rest'⟩, hread, h⟩ := Option.bind_eq_some_iff.1 h
    obtain ⟨rfl, rfl⟩ := Prod.mk.inj (Option.some.inj h)
    obtain ⟨o, tl, rfl, rfl, ho⟩ := Bracket.openAfter_sound hopen
    rw [Bracket.read_congr (skipBlanks_skipBlanks verbose tl)] at hread
    obtain ⟨u, rfl, hu⟩ := Bracket.read_sound hread
    exact ⟨'[' :: (o ++ u), rest', by simp, .inl rfl,
      .set (ho.congr (hu.closed.append_eases rest')) hu⟩
  case h_6 cs => exact lexeme_of_mark rfl (Option.some.inj h)
  case h_7 cs => exact lexeme_of_mark rfl (Option.some.inj h)
  case h_8 cs => exact lexeme_of_mark rfl (Option.some.inj h)
  case h_9 cs =>
    obtain ⟨⟨least, most, mid⟩, hcounts, hrep⟩ := Option.map_eq_some_iff.1 h
    obtain ⟨k, rfl, hk⟩ := readCounts_local hcounts
    simp only at hrep
    by_cases hhead : upcoming verbose mid = some '?'
    · obtain ⟨tl, hskip⟩ := List.head?_eq_some_iff.mp hhead
      rw [hskip] at hrep
      obtain ⟨rfl, rfl⟩ := Prod.mk.inj hrep
      obtain ⟨b, rfl, hb, -⟩ := skipBlanks_split_cons hskip
      exact ⟨'{' :: (k ++ (b ++ ['?'])), tl, by simp, .inl rfl, .countedFew hk hb⟩
    · rw [repeated_many hhead] at hrep
      obtain ⟨rfl, rfl⟩ := Prod.mk.inj hrep
      exact ⟨'{' :: k, mid, rfl, .inr ⟨rfl, rfl⟩, .countedMany hk hhead⟩
  case h_10 cs =>
    obtain ⟨⟨a, rest'⟩, hescape, h⟩ := Option.map_eq_some_iff.1 h
    obtain ⟨rfl, rfl⟩ := Prod.mk.inj h
    obtain ⟨e, tl, rfl, hrest, he, hends⟩ := Escape.read_sound hescape
    exact ⟨'\\' :: e, tl, rfl, .of_trimmed rfl hrest, .escape he hends⟩
  case h_11 cs =>
    obtain ⟨rfl, rfl⟩ := Prod.mk.inj (Option.some.inj h)
    exact ⟨['.'], cs, rfl, .inl rfl, .single rfl⟩
  case h_12 cs =>
    obtain ⟨rfl, rfl⟩ := Prod.mk.inj (Option.some.inj h)
    exact ⟨['^'], cs, rfl, .inl rfl, .single rfl⟩
  case h_13 cs =>
    obtain ⟨rfl, rfl⟩ := Prod.mk.inj (Option.some.inj h)
    exact ⟨['$'], cs, rfl, .inl rfl, .single rfl⟩
  case h_14 c cs h₁ h₂ h₃ h₄ h₅ h₆ h₇ h₈ h₉ h₁₀ h₁₁ h₁₂ =>
    obtain ⟨rfl, rfl⟩ := Prod.mk.inj (Option.some.inj h)
    refine ⟨[c], cs, rfl, .inl rfl, .single ?_⟩
    have hlist : ¬(['(', ')', '|', '[', '?', '*', '+', '{', '\\'].contains c = true) := by
      simp only [List.contains_eq_mem, decide_eq_true_eq, List.mem_cons, List.not_mem_nil, or_false]
      rintro (rfl | rfl | rfl | rfl | rfl | rfl | rfl | rfl | rfl) <;> contradiction
    unfold single?
    rw [if_neg hlist]
    split <;> first | rfl | contradiction

theorem read_of_single {c : Char} {a : Ast} (hc : single? c = some a) (verbose : Bool)
    (tl : List Char) : read verbose (c :: tl) = some (.atom a, tl) := by
  unfold single? at hc
  split at hc
  · exact absurd hc (by simp)
  · rename_i hlist
    simp only [List.contains_eq_mem, decide_eq_true_eq, List.mem_cons, List.not_mem_nil, or_false,
      not_or] at hlist
    obtain ⟨h₁, h₂, h₃, h₄, h₅, h₆, h₇, h₈, h₉⟩ := hlist
    split at hc
    · obtain rfl := Option.some.inj hc
      rfl
    · obtain rfl := Option.some.inj hc
      rfl
    · obtain rfl := Option.some.inj hc
      rfl
    · rename_i h₁₀ h₁₁ h₁₂
      obtain rfl := Option.some.inj hc
      exact read.eq_14 verbose c tl h₁ h₂ h₃ h₄ h₅ h₆ h₇ h₈ h₉ h₁₀ h₁₁ h₁₂

theorem read_set {verbose : Bool} {o u tl : List Char} {b : Bracket} {s : ClassSet}
    (ho : Bracket.Opening verbose u o b) (hu : Bracket.Run verbose b [] u s) :
    read verbose ('[' :: (o ++ u) ++ tl) = some (.atom (.set s), tl) := by
  have hopen := Bracket.openAfter_complete (ho.congr (hu.closed.eases_append tl))
  show ((Bracket.openAfter verbose (o ++ u ++ tl)).bind fun x =>
    (Bracket.read verbose x.1 [] x.2).bind fun y => some (Token.atom (.set y.1), y.2)) = _
  rw [List.append_assoc, hopen, Option.bind_some,
    Bracket.read_congr (skipBlanks_skipBlanks verbose _), Bracket.read_complete hu]
  rfl

theorem read_of_mark {c : Char} {least : Nat} {most : Option Nat}
    (hc : mark? c = some (least, most)) (verbose : Bool) (tl : List Char) :
    read verbose (c :: tl) = some (repeated least most tl) := by
  unfold mark? at hc
  split at hc
  · obtain ⟨rfl, rfl⟩ := Prod.mk.inj (Option.some.inj hc)
    rfl
  · obtain ⟨rfl, rfl⟩ := Prod.mk.inj (Option.some.inj hc)
    rfl
  · obtain ⟨rfl, rfl⟩ := Prod.mk.inj (Option.some.inj hc)
    rfl
  · exact absurd hc (by simp)

/-- A lexeme is read as its token. -/
theorem read_complete {verbose : Bool} {w tl : List Char} {t : Token}
    (h : Lexeme verbose tl w t) :
    ∃ rest, read verbose (w ++ tl) = some (t, rest) ∧ Leaves verbose t tl rest := by
  cases h with
  | capture hnext =>
    refine ⟨_, ?_, .inr ⟨rfl, rfl⟩⟩
    show readGroup (skipBlanks verbose tl) = _
    exact readGroup_capture hnext
  | @group b hd t hb hh =>
    refine ⟨tl, ?_, .inl rfl⟩
    obtain ⟨x, hx⟩ := List.head?_eq_some_iff.mp hh.head
    have hskip : skipBlanks verbose (b ++ (hd ++ tl)) = hd ++ tl := by
      rw [hx, List.cons_append]
      exact hb.skip_cons (by cases verbose <;> decide) (x ++ tl)
    show readGroup (skipBlanks verbose (b ++ hd ++ tl)) = _
    rw [List.append_assoc, hskip]
    exact hh.reads tl
  | close => exact ⟨tl, rfl, .inl rfl⟩
  | bar => exact ⟨tl, rfl, .inl rfl⟩
  | set ho hu => exact ⟨tl, read_set ho hu, .inl rfl⟩
  | @many c least most hc hhead =>
    refine ⟨tl, ?_, .inl rfl⟩
    rw [List.singleton_append, read_of_mark hc, repeated_many hhead]
  | few hc => exact ⟨tl, read_of_mark hc verbose ('?' :: tl), .inl rfl⟩
  | @countedMany k least most hk hnext =>
    refine ⟨_, ?_, .inr ⟨rfl, rfl⟩⟩
    show (readCounts verbose (k ++ tl)).map _ = _
    rw [hk.reads, Option.map_some]
    simp only
    rw [repeated_many hnext]
  | @countedFew k b least most hk hb =>
    refine ⟨tl, ?_, .inl rfl⟩
    show (readCounts verbose (k ++ (b ++ ['?']) ++ tl)).map _ = _
    rw [List.append_assoc, hk.reads, Option.map_some]
    simp only
    rw [List.append_assoc, List.singleton_append, hb.skip_cons (by cases verbose <;> decide)]
    rfl
  | @escape e a he hends =>
    obtain ⟨rest, hread, hrest⟩ := he.reads tl hends
    refine ⟨rest, ?_, .of_trimmed rfl hrest⟩
    show (Escape.read verbose (e ++ tl)).map _ = _
    rw [hread]
    rfl
  | single hc => exact ⟨tl, read_of_single hc verbose tl, .inl rfl⟩

end Token
end Gazetteer.Regex
