import Gazetteer.Proofs.Outline.Class
import Gazetteer.Proofs.Reading.Draft

/-! Where a scan and the reader of a pattern agree.

A scan knows only one setting for the whole pattern, and nothing of names. `Draft.agrees` says of
a text that this makes no difference: its names tell a scan nothing, its classes are seen alike,
and no `#` is read where the pattern itself has switched to or from verbose. The scan then
passes over each lexeme as the reader does (`Draft.agrees_token`). -/
namespace Gazetteer.Regex

open Pattern (Outline)
open Pattern.Outline (Passes Skims Inert isSeparator isOrdinary level inside)

/-! ### The setting of a scan -/

section

variable {verbose scanned : Bool} {s : Outline}

theorem next_slash (he : s.escaped = false) (hc : s.inComment = false) :
    s.next verbose '\\' = ({ s with escaped := true }, none) := by
  simp [Outline.next, he, hc]

theorem next_escaped (he : s.escaped = true) (c : Char) :
    s.next verbose c = ({ s with escaped := false, fresh := false }, none) := by
  simp [Outline.next, he]

theorem next_congr (hc : s.inComment = false) {c : Char} (hh : c ≠ '#') :
    s.next scanned c = s.next verbose c := by
  unfold Outline.next
  rw [hc]
  split
  · rfl
  · simp only [Bool.false_eq_true, if_false]
    split
    · rfl
    · split
      · rfl
      · split <;> first | rfl | contradiction

theorem next_steady (verbose : Bool) (he : s.escaped = false) (hc : s.inComment = false) {c : Char} (hh : c ≠ '#')
    (hs : c ≠ '\\') :
    (s.next verbose c).1.escaped = false ∧ (s.next verbose c).1.inComment = false := by
  have hslash : (c == '\\') = false := by simpa using hs
  simp only [Outline.next, he, hc, hslash, Bool.false_eq_true, if_false]
  split
  · simp only [Outline.inBrackets]
    split
    · split <;> exact ⟨he, hc⟩
    · exact ⟨he, hc⟩
    · exact ⟨he, hc⟩
    · exact ⟨he, hc⟩
  · split
    · exact ⟨rfl, rfl⟩
    · exact ⟨rfl, rfl⟩
    · exact ⟨rfl, rfl⟩
    · exact absurd rfl hh
    · exact ⟨he, hc⟩

/-- A text in which every `#` is escaped is scanned the same under both settings. -/
theorem scan_congr {w : List Char} (he : s.escaped = false) (hc : s.inComment = false)
    (h : bare '#' w = false) :
    s.after scanned w = s.after verbose w ∧ s.marks scanned w = s.marks verbose w := by
  fun_induction bare '#' w generalizing s with
  | case1 => exact ⟨rfl, rfl⟩
  | case2 d cs ih =>
    have hrest := ih (s := { s with escaped := false, fresh := false }) rfl hc h
    simp only [Outline.after, List.foldl_cons, Outline.marks, next_slash he hc,
      next_escaped (s := { s with escaped := true }) rfl]
    exact ⟨hrest.1, by rw [hrest.2]⟩
  | case3 c cs hpair ih =>
    rw [Bool.or_eq_false_iff] at h
    have hh : c ≠ '#' := by simpa using h.1
    have hnext : s.next scanned c = s.next verbose c := next_congr hc hh
    by_cases hs : c = '\\'
    · cases cs with
      | nil =>
        simp only [Outline.after, List.foldl_cons, List.foldl_nil, Outline.marks, hnext, and_self]
      | cons e cs => exact absurd rfl (hpair e cs hs)
    · obtain ⟨he', hc'⟩ := next_steady verbose he hc hh hs
      have hrest := ih he' hc' h.2
      simp only [Outline.after, List.foldl_cons, Outline.marks, hnext]
      exact ⟨hrest.1, by rw [hrest.2]⟩

theorem passes_congr {t : Outline} {w : List Char} (h : Passes verbose s w t)
    (he : s.escaped = false) (hc : s.inComment = false) (hw : bare '#' w = false) :
    Passes scanned s w t := by
  obtain ⟨hafter, hmarks⟩ : s.after scanned w = s.after verbose w ∧
      s.marks scanned w = s.marks verbose w := scan_congr he hc hw
  exact ⟨hafter.trans h.after, by rw [hmarks]; exact h.quiet⟩

/-- What stands behind a text that leaves no escape open keeps its bare characters. -/
theorem bare_append {w : List Char} (he : s.escaped = false) (hc : s.inComment = false)
    (h : bare '#' w = false) (hend : (s.after verbose w).escaped = false) (cs : List Char) :
    bare '#' (w ++ cs) = bare '#' cs := by
  fun_induction bare '#' w generalizing s with
  | case1 => rfl
  | case2 d w ih =>
    refine ih (s := { s with escaped := false, fresh := false }) rfl hc h ?_
    simp only [Outline.after, List.foldl_cons, next_slash he hc,
      next_escaped (s := { s with escaped := true }) rfl] at hend
    exact hend
  | case3 c w hpair ih =>
    rw [Bool.or_eq_false_iff] at h
    have hh : c ≠ '#' := by simpa using h.1
    by_cases hs : c = '\\'
    · subst hs
      cases w with
      | nil =>
        simp only [Outline.after, List.foldl_cons, List.foldl_nil, next_slash he hc] at hend
        exact absurd hend (by simp)
      | cons e w => exact absurd rfl (hpair e w rfl)
    · obtain ⟨he', hc'⟩ := next_steady verbose he hc hh hs
      rw [List.cons_append, bare_cons hs, h.1, Bool.false_or]
      exact ih he' hc' h.2 hend

end

/-! ### Tokens -/

/-- Whether a scan sees the class that begins with `cs` behind its opening bracket. -/
def Bracket.classAgrees (verbose : Bool) (cs : List Char) : Bool :=
  (!verbose || !bare '#' cs) && opensAlike verbose cs &&
    match openAfter verbose cs with
    | none => true
    | some (_, rest) => agrees verbose 0 rest

/-- Whether a scan sees the text `w` of a token as the reader does. -/
def Token.agrees (verbose : Bool) (w : List Char) (t : Token) : Bool :=
  match w with
  | '[' :: cs => Bracket.classAgrees verbose cs
  | _ => t.hasPlainName

theorem Token.agrees_of_head {verbose : Bool} {w : List Char} {t : Token}
    (h : w.head? ≠ some '[') : t.agrees verbose w = t.hasPlainName := by
  unfold agrees
  split
  · exact absurd rfl h
  · rfl

/-- What agreement on a class says of its text. -/
theorem Bracket.agrees_of_classAgrees {verbose : Bool} {o u : List Char} {b : Bracket}
    (ho : Opening verbose u o b) (ha : classAgrees verbose (o ++ u)) :
    opensAlike verbose (o ++ u) ∧ Tidy verbose (o ++ u) ∧ agrees verbose 0 u := by
  simp only [classAgrees, openAfter_complete ho, Bool.and_eq_true, Bool.or_eq_true,
    Bool.not_eq_true'] at ha
  obtain ⟨⟨hcomment, hopens⟩, hagrees⟩ := ha
  rw [agrees_congr (skipBlanks_skipBlanks verbose u)] at hagrees
  refine ⟨hopens, fun hv => ?_, hagrees⟩
  rcases hcomment with hv' | hbare
  · rw [hv] at hv'
    exact absurd hv' (by simp)
  · exact hbare

theorem Bracket.passes_class {verbose scanned : Bool} {o u : List Char} {b : Bracket}
    {s : ClassSet} (ho : Opening verbose u o b) (hu : Run verbose b [] u s)
    (ha : classAgrees verbose (o ++ u)) (k : Nat) :
    Passes scanned (level k) ('[' :: (o ++ u)) (level k) := by
  obtain ⟨hopens, htidy, hagrees⟩ := agrees_of_classAgrees ho ha
  obtain ⟨f, hopen, hf, htidy, -⟩ := ho.passes (v := scanned) (k := k) (n := 0) hopens htidy
  exact .cons rfl (by simp [isSeparator]) (hopen.append (hu.passes hagrees htidy hf))

theorem inert_of_mark? {verbose : Bool} {c : Char} {least : Nat} {most : Option Nat}
    {cs : List Char} (hc : Token.mark? c = some (least, most)) (hcs : Inert verbose cs) :
    Inert verbose (c :: cs) := by
  refine .cons ?_ hcs
  unfold Token.mark? at hc
  split at hc <;> first | decide | exact absurd hc (by simp)

/-- An escape leaves a scan where it was. -/
theorem Escape.Spells.passes {verbose : Bool} {e : List Char} {a : Ast}
    (h : Spells verbose e a) (ha : a.hasPlainName) (k : Nat) :
    Passes verbose (level k) ('\\' :: e) (level k) := by
  obtain ⟨c, u, taken, rfl, hspaced, hplain⟩ := h.shape
  have hinert := hspaced.inert fun d hd => isOrdinary_of_isPlain (hplain ha d hd)
  refine .cons_none rfl (.cons_none ?_ (hinert k).toPasses)
  simp [Outline.next, level]

theorem passes_single {verbose : Bool} {c : Char} {a : Ast} (hc : Token.single? c = some a)
    (hsolid : isSolid verbose c) (k : Nat) : Passes verbose (level k) [c] (level k) := by
  by_cases hhash : c = '#'
  · subst hhash
    cases verbose with
    | false => exact .single rfl rfl
    | true => exact absurd hsolid (by decide)
  · have hord : isOrdinary c := by
      unfold Token.single? at hc
      split at hc
      · exact absurd hc (by simp)
      · rename_i hlist
        simp only [List.contains_eq_mem, decide_eq_true_eq, List.mem_cons, List.not_mem_nil,
          or_false, not_or] at hlist
        simp [isOrdinary, hlist, hhash]
    exact ((Inert.nil.cons hord) k).toPasses

/-- A scan passes over a lexeme as the reader does, but for a bar. -/
theorem Token.Lexeme.passes {verbose : Bool} {tl w : List Char} {t : Token}
    (h : Lexeme verbose tl w t) (hbar : t ≠ .bar) (hsolid : w.head?.all (isSolid verbose))
    (ha : t.agrees verbose w) (k : Nat) :
    Passes verbose (level k) w (level (t.depthAfter k)) := by
  have hopen : Passes verbose (level k) ['('] (level (k + 1)) := .single rfl rfl
  have hbrace : isOrdinary '{' := by decide
  have hquestion : isOrdinary '?' := by decide
  cases h with
  | capture _ => exact hopen
  | @group b hd t hb hh =>
    rw [← List.singleton_append]
    exact hopen.append ((hb.inert (k + 1)).toPasses.append (hh.passes ha verbose k))
  | close => exact .single rfl rfl
  | bar => exact absurd rfl hbar
  | set ho hu => exact Bracket.passes_class ho hu ha k
  | many hc _ => exact (inert_of_mark? hc .nil k).toPasses
  | few hc => exact (inert_of_mark? hc (.cons hquestion .nil) k).toPasses
  | countedMany hk _ => exact (Inert.cons hbrace hk.inert k).toPasses
  | countedFew hk hb =>
    exact (Inert.cons hbrace (hk.inert.append (hb.inert.append (.cons hquestion .nil))) k).toPasses
  | escape he _ => exact he.passes ha k
  | single hc => exact passes_single hc (by simpa using hsolid) k

/-! ### Drafts -/

namespace Draft

/-- Whether a scan with the setting `scanned` sees a text as the draft does that reads it. -/
def agrees (scanned : Bool) (d : Draft) (cs : List Char) : Bool :=
  match hs : skipBlanks d.verbose cs with
  | [] => d.verbose == scanned || !bare '#' cs
  | c :: cs' =>
    match h : Token.read d.verbose (c :: cs') with
    | none => true
    | some (t, rest) =>
      have : rest.length < cs.length := by
        have h₁ := Token.length_read_lt h
        have h₂ := length_skipBlanks_le d.verbose cs
        rw [hs] at h₂
        omega
      let b := cs.take (cs.length - (c :: cs').length)
      let w := (c :: cs').take ((c :: cs').length - rest.length)
      t.agrees d.verbose w &&
        (d.verbose == scanned || !bare '#' b && (c == '[' || !bare '#' w)) &&
        match d.add t with
        | none => true
        | some d' => d'.agrees scanned rest
termination_by cs.length

theorem agrees_eq (scanned : Bool) (d : Draft) (cs : List Char) :
    d.agrees scanned cs =
      match skipBlanks d.verbose cs with
      | [] => d.verbose == scanned || !bare '#' cs
      | c :: cs' =>
        match Token.read d.verbose (c :: cs') with
        | none => true
        | some (t, rest) =>
          t.agrees d.verbose ((c :: cs').take ((c :: cs').length - rest.length)) &&
            (d.verbose == scanned || !bare '#' (cs.take (cs.length - (c :: cs').length)) &&
              (c == '[' || !bare '#' ((c :: cs').take ((c :: cs').length - rest.length)))) &&
            match d.add t with
            | none => true
            | some d' => d'.agrees scanned rest := by
  rw [agrees]
  split
  · rename_i hs
    rw [hs]
  · rename_i c cs' hs
    simp only [hs]
    split
    · rename_i h
      simp only [h]
    · rename_i t rest h
      simp only [h]

variable {scanned : Bool} {d d' : Draft} {b w tl : List Char} {t : Token}

/-- Blanks that are dropped early make no difference if they hold no `#` where it counts. -/
theorem agrees_of_skip {β cs : List Char} (hβ : cs = β ++ skipBlanks d.verbose cs)
    (hbare : d.verbose = scanned ∨ bare '#' β = false)
    (h : d.agrees scanned (skipBlanks d.verbose cs)) : d.agrees scanned cs := by
  rw [agrees_eq, skipBlanks_skipBlanks] at h
  rw [agrees_eq]
  cases hskip : skipBlanks d.verbose cs with
  | nil =>
    rw [hskip, List.append_nil] at hβ
    subst hβ
    simpa using hbare
  | cons c cs' =>
    have hb : cs.take (cs.length - (c :: cs').length) = β := by
      rw [hskip] at hβ
      rw [hβ]
      simp
    rw [hskip] at h
    simp only [hb] at h ⊢
    split at h
    · rfl
    · simp only [Bool.and_eq_true, Bool.or_eq_true, Bool.not_eq_true', beq_iff_eq] at h ⊢
      refine ⟨⟨h.1.1, ?_⟩, h.2⟩
      rcases hbare with hv | hbare
      · exact .inl hv
      · exact h.1.2.imp_right fun hw => ⟨hbare, hw.2⟩

/-- What agreement says where a lexeme is read, given what the reader leaves. -/
theorem agrees_of_read {c : Char} {x β rest : List Char} (hb : Blank d.verbose b)
    (hc : isSolid d.verbose c) (ha : d.add t = some d') (htl : tl = β ++ rest)
    (hread : Token.read d.verbose (c :: x ++ tl) = some (t, rest))
    (h : d.agrees scanned (b ++ (c :: x ++ tl))) :
    t.agrees d.verbose (c :: x ++ β) ∧
      (d.verbose = scanned ∨
        bare '#' b = false ∧ (c = '[' ∨ bare '#' (c :: x ++ β) = false)) ∧
      d'.agrees scanned rest := by
  have hskip : skipBlanks d.verbose (b ++ (c :: x ++ tl)) = c :: (x ++ tl) := hb.skip_cons hc _
  have hread : Token.read d.verbose (c :: (x ++ tl)) = some (t, rest) := hread
  have hw : (c :: (x ++ tl)).take ((c :: (x ++ tl)).length - rest.length) = c :: x ++ β := by
    have hsplit : c :: (x ++ tl) = c :: x ++ β ++ rest := by rw [htl]; simp
    rw [hsplit, List.length_append, Nat.add_sub_cancel, List.take_left]
  have hbt : (b ++ (c :: x ++ tl)).take
      ((b ++ (c :: x ++ tl)).length - (c :: (x ++ tl)).length) = b := by
    simp
  rw [agrees_eq, hskip] at h
  simp only at h
  rw [hread] at h
  simp only [hw, hbt, ha, Bool.and_eq_true, Bool.or_eq_true, Bool.not_eq_true',
    beq_iff_eq] at h
  exact ⟨h.1.1, h.1.2, h.2⟩

theorem skipBlanks_suffix (verbose : Bool) (cs : List Char) : ∃ β, cs = β ++ skipBlanks verbose cs := by
  cases verbose with
  | false => exact ⟨[], rfl⟩
  | true =>
    obtain ⟨β, -, hβ, -⟩ := dropBlanks_split false cs
    exact ⟨β, hβ⟩

theorem inert_of_bare (hb : Blank d.verbose b) (h : d.verbose = scanned ∨ bare '#' b = false) :
    Inert scanned b := by
  rcases h with rfl | hbare
  · exact hb.inert
  · have htidy : Tidy d.verbose (b ++ []) := fun _ => by rw [List.append_nil]; exact hbare
    exact .of_forall fun c hc => isOrdinary_of_isSpace ((hb.tidy htidy).1 c hc)

/-- Where a lexeme is read, a scan passes over it and over the blanks before it, and the two go on
to agree. -/
theorem agrees_token (hb : Blank d.verbose b) (hw : Token.Lexeme d.verbose tl w t)
    (hsolid : w.head?.all (isSolid d.verbose)) (ha : d.add t = some d')
    (h : d.agrees scanned (b ++ (w ++ tl))) :
    t.agrees d.verbose w ∧ Inert scanned b ∧
      (t ≠ .bar →
        ∀ k : Nat, Passes scanned (Outline.level k) w (Outline.level (t.depthAfter k))) ∧
      d'.agrees scanned tl := by
  obtain ⟨c, x, rfl⟩ := hw.cons
  have hc : isSolid d.verbose c := by simpa using hsolid
  by_cases hclass : c = '['
  · subst hclass
    cases hw with
    | @set o u br s ho hu =>
      obtain ⟨htoken, hbare, hrest⟩ :=
        agrees_of_read hb hc ha (List.nil_append tl).symm (Token.read_set ho hu) h
      rw [List.append_nil] at htoken
      exact ⟨htoken, inert_of_bare hb (hbare.imp_right And.left),
        fun _ k => Bracket.passes_class ho hu htoken k, hrest⟩
    | many hc _ => exact absurd hc (by simp [Token.mark?])
    | few hc => exact absurd hc (by simp [Token.mark?])
    | single hc => exact absurd hc (by simp [Token.single?])
  · obtain ⟨rest, hread, hleaves⟩ := Token.read_complete hw
    obtain ⟨β, hβ⟩ : ∃ β, tl = β ++ rest := by
      rcases hleaves with rfl | ⟨-, rfl⟩
      · exact ⟨[], rfl⟩
      · exact skipBlanks_suffix d.verbose tl
    obtain ⟨htoken, hbare, hrest⟩ := agrees_of_read hb hc ha hβ hread h
    have htoken : t.agrees d.verbose (c :: x) := by
      have hhead : ∀ y, (c :: y).head? ≠ some '[' := fun y heq => hclass (Option.some.inj heq)
      rw [Token.agrees_of_head (hhead x)]
      rwa [List.cons_append, Token.agrees_of_head (hhead _)] at htoken
    refine ⟨htoken, inert_of_bare hb (hbare.imp_right And.left), fun hbar k => ?_, ?_⟩
    · have hpass := hw.passes hbar hsolid htoken k
      rcases hbare with rfl | ⟨-, hbare⟩
      · exact hpass
      · exact passes_congr hpass rfl rfl (bare_of_append (by decide) (hbare.resolve_left hclass))
    · rcases hleaves with rfl | ⟨hlasts, rfl⟩
      · exact hrest
      · have hv := verbose_of_lasts hlasts ha
        rw [← hv] at hrest hβ
        refine agrees_of_skip hβ ?_ hrest
        rcases hbare with hv' | ⟨-, hbare⟩
        · exact .inl (hv.trans hv')
        · have hbare := hbare.resolve_left hclass
          have hbar : t ≠ .bar := by
            rintro rfl
            exact absurd hlasts (by simp [Token.lasts])
          have hpass := hw.passes hbar hsolid htoken 0
          rw [bare_append rfl rfl (bare_of_append (by decide) hbare)
            (by rw [hpass.after]; rfl)] at hbare
          exact .inr hbare

/-- Where a scan has a setting of its own, no `#` stands bare outside classes. -/
theorem bare_of_agrees (hb : Blank d.verbose b) (hw : Token.Lexeme d.verbose tl w t)
    (hsolid : w.head?.all (isSolid d.verbose)) (ha : d.add t = some d')
    (h : d.agrees scanned (b ++ (w ++ tl))) :
    d.verbose = scanned ∨ w.head? = some '[' ∨ bare '#' w = false := by
  obtain ⟨rest, hread, hleaves⟩ := Token.read_complete hw
  obtain ⟨β, hβ⟩ : ∃ β, tl = β ++ rest := by
    rcases hleaves with rfl | ⟨-, rfl⟩
    · exact ⟨[], rfl⟩
    · exact skipBlanks_suffix d.verbose tl
  obtain ⟨c, x, rfl⟩ := hw.cons
  obtain ⟨-, hbare, -⟩ := agrees_of_read hb (by simpa using hsolid) ha hβ hread h
  refine hbare.imp_right fun hbare => hbare.2.imp (by simp) fun hbare => ?_
  exact bare_of_append (by decide) hbare

/-- At the end of a text a scan is where it was, perhaps in a comment. -/
theorem agrees_blank {o : Bool} (hb : Trailing d.verbose b o) (h : d.agrees scanned b)
    (k : Nat) :
    Skims scanned (Outline.level k) b { Outline.level k with inComment := o } := by
  rw [agrees_eq, hb.skip_eq_nil] at h
  simp only [Bool.or_eq_true, beq_iff_eq, Bool.not_eq_true'] at h
  cases hv : d.verbose with
  | false =>
    rw [hv] at hb
    obtain ⟨rfl, rfl⟩ : b = [] ∧ o = false := hb
    exact .nil
  | true =>
    rw [hv] at hb h
    have hb : commentAfter false b = some o := hb
    rcases h with rfl | hbare
    · exact skims_of_commentAfter hb k
    · obtain ⟨hspace, rfl⟩ := isSpace_of_commentAfter hb hbare
      exact (Inert.of_forall fun c hc => isOrdinary_of_isSpace (hspace c hc)) k

end Draft
end Gazetteer.Regex
