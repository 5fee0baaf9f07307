import Gazetteer.Proofs.Group.Alternatives

/-! Groups with a pattern that is not accepted.

Only the whole pattern of a group is compiled. If its patterns are contained, it is accepted only if
each of its bodies closes all groups of its own; the bodies are then compiled as they would be
alone. A group of contained patterns with one that is rejected alone is therefore rejected
(`CompiledGroup.rejects_of_contained`). Patterns that are not contained can be mended by what is put
around them (`CompiledGroup.mended_patterns`). -/
namespace Gazetteer

open Pattern (Anchor)
open Regex (Ast Contained Draft Outcome Part Side)

namespace Regex

/-! ### Bodies of an accepted pattern -/

theorem Ast.height_le_ofBranches {a : Ast} {branches : List Ast} (h : a ∈ branches) :
    a.height ≤ (ofBranches branches).height := by
  match branches with
  | [b] =>
    obtain rfl := List.mem_singleton.mp h
    exact Nat.le_refl _
  | b :: b' :: branches =>
    exact Nat.le_succ_of_le (heights_le_iff.mp (Nat.le_refl _) a h)

namespace Part

variable {verbose : Bool} {p : Part verbose} {parts : List (Part verbose)}

theorem exists_branch_mem (h : p ∈ parts) (k : Nat) : ∃ k', p.branch k' ∈ branches k parts := by
  induction parts generalizing k with
  | nil => exact absurd h List.not_mem_nil
  | cons q parts ih =>
    rcases List.mem_cons.mp h with rfl | h
    · exact ⟨k, List.mem_cons_self⟩
    · obtain ⟨k', hk'⟩ := ih h (k + 1 + q.draft.captures)
      exact ⟨k', List.mem_cons_of_mem _ hk'⟩

/-- The bodies of an accepted choice between parts are patterns. -/
theorem isPattern_of_texts {o : Options} {parts : List (Part o.verbose)} {p : Part o.verbose}
    {r : Regex} (hr : ofPattern? o (.ofList (List.intercalate ['|'] (parts.map text))) = some r)
    (hp : p ∈ parts) : p.draft.IsPattern o.mode := by
  obtain ⟨a, m', ha, hnode, -⟩ := ofPattern?_eq_some hr
  obtain ⟨hheight, -⟩ := Ast.addText_of_read ha
  obtain ⟨hbranches, hsame⟩ := ofAst_of_texts (m := o.mode) (List.ne_nil_of_mem hp) ha
  refine ⟨p.opened, ?_, ?_⟩
  · obtain ⟨k, hk⟩ := exists_branch_mem hp 0
    have hbranch : (p.branch k).height ≤ Ast.heightLimit := by
      rw [hbranches] at hheight
      exact Nat.le_trans (Ast.height_le_ofBranches hk) hheight
    have hle : (p.ast.renumber (k + 1 + ·)).height ≤ Ast.heightLimit :=
      Nat.le_trans (Nat.le_succ _) hbranch
    rwa [Ast.height_renumber] at hle
  · rw [hsame] at hnode
    obtain ⟨bodies, hbodies⟩ := exists_bodies hnode
    have hmeans : ∀ q ∈ parts, (q.ast.modeAfter? o.mode).isSome := by
      refine ((List.forall₂_and_left _ _).mp (hbodies.imp fun q r hq => ⟨?_, hq⟩)).1
      obtain ⟨m₁, hm₁⟩ := hq
      unfold Ast.modeAfter?
      rw [hm₁]
      rfl
    exact hmeans p hp

end Part
end Regex

/-! ### Groups -/

namespace CompiledGroup

/-- The anchor that the patterns of a group get. -/
def anchor? (flags : Flags) (wordBoundaries : Bool) : Option Anchor :=
  if wordBoundaries then some (if flags.ascii then .ascii else .unicode) else none

/-- Whether the body of one of the terms holds a closing bracket. -/
def anyBracket (flags : Flags) (wordBoundaries : Bool) (terms : List Term) : Bool :=
  terms.any fun term => (termBody flags wordBoundaries term.pattern).contains ']'

/-- Every pattern is contained in front of the ones behind it. -/
def AllContained (flags : Flags) (wordBoundaries : Bool) (side : Side) : List Term → Prop
  | [] => True
  | term :: later =>
    Contained flags.verbose flags.ascii (anchor? flags wordBoundaries) side
      (anyBracket flags wordBoundaries later) term.pattern.toList ∧
      AllContained flags wordBoundaries side later

end CompiledGroup

open CompiledGroup (anchor? anyBracket AllContained)

/-- The body of a contained pattern is read as the pattern is, and it is accepted alone only if the
pattern is. -/
theorem Regex.Contained.termBody {flags : Flags} {wordBoundaries bracket : Bool} {side : Side}
    {pattern : String} (h : Contained flags.verbose flags.ascii (anchor? flags wordBoundaries) side
      bracket pattern.toList) :
    Outcome flags.verbose side bracket (CompiledGroup.termBody flags wordBoundaries pattern) ∧
      ((ofPattern? flags.options
          (.ofList (CompiledGroup.termBody flags wordBoundaries pattern))).isSome →
        (ofPattern? flags.options pattern).isSome) := by
  have hnarrowed : ∃ cs : List Char,
      (if flags.ascii then Pattern.asciiOnly flags.verbose pattern.toList else pattern.toList) =
        cs ∧
      Contained flags.options.verbose false (anchor? flags wordBoundaries) side bracket cs ∧
      ((ofPattern? flags.options (.ofList cs)).isSome →
        (ofPattern? flags.options pattern).isSome) := by
    cases hascii : flags.ascii with
    | false =>
      rw [hascii] at h
      refine ⟨pattern.toList, rfl, h, ?_⟩
      rw [String.ofList_toList]
      exact id
    | true =>
      rw [hascii] at h
      have hnarrow := Contained.narrow (o := flags.options) h
      rw [String.ofList_toList] at hnarrow
      exact ⟨_, rfl, hnarrow⟩
  obtain ⟨cs, hcs, hcontained, haccepted⟩ := hnarrowed
  unfold CompiledGroup.termBody
  simp only [hcs]
  cases wordBoundaries with
  | false => exact ⟨hcontained.outcome, haccepted⟩
  | true =>
    obtain ⟨houtcome, hbounded⟩ := hcontained.bound
    exact ⟨houtcome, haccepted ∘ hbounded⟩

namespace CompiledGroup

variable {g : TermGroup} {wordBoundaries : Bool} {flags : Flags} {c : CompiledGroup} {side : Side}

/-- A group whose flags and symbols are in order compiles or has no valid pattern. -/
theorem ofGroup_of_declared {symbols : SymbolTable} (hflags : Flags.resolve g.flags = .ok flags)
    (hterms : g.terms ≠ []) (hsymbols : SymbolTable.ofNames (g.terms.map Term.name) = .ok symbols) :
    (∃ c, ofGroup g wordBoundaries = .ok c ∧ c.flags = flags) ∨
      ofGroup g wordBoundaries = .error (.invalidRegex flags.options
        (sourceOf flags wordBoundaries (symbolsOf g.terms) g.terms)) := by
  have hempty : g.terms.isEmpty = false := by simpa using hterms
  rw [← symbols_of_ok hsymbols]
  cases hregex : Regex.ofPattern? flags.options
      (sourceOf flags wordBoundaries symbols.symbols g.terms) with
  | none =>
    right
    unfold ofGroup
    simp [hflags, hsymbols, hempty, hregex, bind, Except.bind, Except.mapError, throw, throwThe,
      MonadExceptOf.throw]
  | some regex =>
    left
    unfold ofGroup
    simp [hflags, hsymbols, hempty, hregex, bind, Except.bind, Except.mapError, pure, Except.pure]

/-- The bodies of terms with their symbols. -/
def bodiesOf (flags : Flags) (wordBoundaries : Bool) (terms : List Term) :
    List (String × List Char) :=
  terms.map fun term => (Symbol.ofName term.name, termBody flags wordBoundaries term.pattern)

theorem AllContained.allOutcome {terms : List Term}
    (h : AllContained flags wordBoundaries side terms) :
    Regex.AllOutcome flags.verbose side (bodiesOf flags wordBoundaries terms) := by
  induction terms with
  | nil => trivial
  | cons term later ih =>
    refine ⟨?_, ih h.2⟩
    rw [List.any_map]
    exact h.1.termBody.1

/-- If the patterns of a group that is accepted are contained, then each of its bodies closes all
groups of its own. -/
theorem closesAll_of_allContained (hc : ofGroup g wordBoundaries = .ok c)
    (h : AllContained c.flags wordBoundaries side g.terms) :
    ∀ term ∈ g.terms,
      Regex.ClosesAll c.flags.verbose (termBody c.flags wordBoundaries term.pattern) := by
  obtain ⟨-, -, -, -, hregex⟩ := ofGroup_eq_ok hc
  obtain ⟨z, hz, hpattern⟩ :=
    Regex.isSome_ofPattern?_iff.mp (Option.isSome_iff_exists.mpr ⟨_, hregex⟩)
  have htext : List.intercalate ['|'] (List.zipWith (fun symbol (term : Term) =>
      alternative c.flags wordBoundaries symbol term.pattern) c.symbols.symbols g.terms) =
        Regex.alternativesText c.flags.verbose (bodiesOf c.flags wordBoundaries g.terms) := by
    unfold Regex.alternativesText bodiesOf
    rw [symbols_eq hc, List.zipWith_map_left, List.zipWith_self, List.map_map]
    refine congrArg _ (List.map_congr_left fun term _ => ?_)
    exact List.append_assoc ..
  rw [htext] at hz
  have hsymbols : ∀ b ∈ bodiesOf c.flags wordBoundaries g.terms, ∀ x ∈ b.1.toList,
      x ≠ '>' ∧ x ≠ ']' :=
    List.forall_mem_map.mpr fun term _ x hx => by
      refine ⟨Symbol.ne_of_mem_ofName hx, ?_⟩
      rintro rfl
      exact absurd (Symbol.isSymbolChar_of_mem_ofName hx) (by decide)
  have hdepth := h.allOutcome.depth_of_text (d := .start c.flags.verbose) hsymbols rfl
    (fun _ => rfl) hz
  have hclosed : z.frames.length = (Draft.start c.flags.verbose).frames.length := by
    rw [Regex.frames_eq_nil_iff.mpr hpattern.opened]
    rfl
  exact fun term hterm => hdepth.2 hclosed _ (List.mem_map_of_mem hterm)

/-- If the bodies of a group close all groups of their own, they are accepted alone if the group
is. -/
theorem isSome_of_closesAll (hc : ofGroup g wordBoundaries = .ok c)
    (h : ∀ term ∈ g.terms,
      Regex.ClosesAll c.flags.verbose (termBody c.flags wordBoundaries term.pattern)) :
    ∀ term ∈ g.terms, (Regex.ofPattern? c.flags.options
      (.ofList (termBody c.flags wordBoundaries term.pattern))).isSome := by
  have henclosed : allEnclosed c.flags wordBoundaries g.terms := by
    refine List.all_eq_true.mpr fun term hterm => ?_
    obtain ⟨e, o, hread, ho, hopened⟩ := h term hterm
    exact hread.encloses ho hopened
  obtain ⟨parts, htexts, -, hbodies⟩ := exists_parts_of_allEnclosed henclosed
  obtain ⟨-, -, -, -, hregex⟩ := ofGroup_eq_ok hc
  rw [sourceOf, symbols_eq hc, ← htexts] at hregex
  intro term hterm
  obtain ⟨e, o, hread, ho, -⟩ := h term hterm
  obtain ⟨p, hp, hbody⟩ : ∃ p ∈ parts, p.body = termBody c.flags wordBoundaries term.pattern ++
      Regex.lineEnd c.flags.verbose := by
    refine List.mem_map.mp ?_
    rw [hbodies]
    exact List.mem_map_of_mem (f := fun term : Term => _) hterm
  -- In a verbose pattern the part has the end of a line behind the body.
  have hpattern := Part.isPattern_of_texts hregex hp
  have hline : (Draft.start c.flags.verbose).addText p.body = some (e.endLine c.flags.verbose) := by
    rw [hbody]
    exact hread.addText_lineEnd ho
  have hdraft : p.draft = e.endLine c.flags.verbose :=
    Option.some.inj (p.lexed.addText.symm.trans hline)
  rw [hdraft] at hpattern
  exact Regex.isSome_ofPattern?_iff.mpr ⟨e, hread.addText, hpattern.of_endLine⟩

theorem AllContained.of_mem {terms : List Term} {term : Term}
    (h : AllContained flags wordBoundaries side terms) (hterm : term ∈ terms) :
    ∃ bracket, Contained flags.verbose flags.ascii (anchor? flags wordBoundaries) side bracket
      term.pattern.toList := by
  induction terms with
  | nil => exact absurd hterm List.not_mem_nil
  | cons first later ih =>
    rcases List.mem_cons.mp hterm with rfl | hterm
    · exact ⟨_, h.1⟩
    · exact ih h.2 hterm

/-- A group of contained patterns with one that is rejected alone is rejected. -/
theorem rejects_of_contained {side : Side} (hflags : Flags.resolve g.flags = .ok flags)
    (hsymbols : (SymbolTable.ofNames (g.terms.map Term.name)).isOk)
    (hcontained : AllContained flags wordBoundaries side g.terms)
    (hbad : ∃ term ∈ g.terms, Regex.ofPattern? flags.options term.pattern = none) :
    ofGroup g wordBoundaries = .error (.invalidRegex flags.options
      (sourceOf flags wordBoundaries (symbolsOf g.terms) g.terms)) := by
  obtain ⟨term, hterm, hnone⟩ := hbad
  cases htable : SymbolTable.ofNames (g.terms.map Term.name) with
  | error e =>
    rw [htable] at hsymbols
    exact absurd hsymbols (by simp [Except.isOk, Except.toBool])
  | ok symbols =>
    refine (ofGroup_of_declared hflags (List.ne_nil_of_mem hterm) htable).resolve_left ?_
    rintro ⟨c, hc, rfl⟩
    obtain ⟨bracket, hpattern⟩ := hcontained.of_mem hterm
    have hbody := isSome_of_closesAll hc (closesAll_of_allContained hc hcontained) term hterm
    have hsome := hpattern.termBody.2 hbody
    rw [hnone] at hsome
    exact absurd hsome (by simp)

/-- An open group, a look ahead and an open class are mended neither by anchors nor by one
another. -/
theorem rejects_of_unclosed :
    let flags : Flags := ⟨false, false, false, false, false, false⟩
    let g : TermGroup := ⟨"g", [⟨"group", "x|(a"⟩, ⟨"word", "b|c?"⟩, ⟨"ahead", "c(?=d|e)"⟩,
      ⟨"class", "|[d"⟩], some (.bits 0)⟩
    Flags.resolve g.flags = .ok flags ∧
      (SymbolTable.ofNames (g.terms.map Term.name)).isOk ∧
      AllContained flags true .opening g.terms ∧
      (∃ term ∈ g.terms, Regex.ofPattern? flags.options term.pattern = none) ∧
      ofGroup g true =
        .error (.invalidRegex flags.options (sourceOf flags true (symbolsOf g.terms) g.terms)) := by
  intro flags g
  have hread : ∀ (cs : List Char) (frames : List Bool), ((Draft.start false).addText cs).any
      (fun e => !e.verbose && e.frames == frames) = true →
      ∃ e, Draft.Lexed (.start false) cs e false ∧ e.verbose = false ∧ e.frames = frames := by
    intro cs frames h
    rw [Option.any_eq_true] at h
    obtain ⟨e, he, h⟩ := h
    simp only [Bool.and_eq_true, Bool.not_eq_true', beq_iff_eq] at h
    exact ⟨e, .of_plain he h.1, h.1, h.2⟩
  have hscanned : ∀ cs : List Char, (Draft.start false).agrees false cs = true →
      Regex.Scanned false false true cs := fun cs h => ⟨fun h => absurd h (by simp), fun _ => h⟩
  have hcopied : ∀ w : List Char, ((Pattern.Outline.level 0).marks false w).all
      (!Pattern.Outline.isSeparator ·) → Regex.Copied false false true 0 w := fun w h =>
    ⟨fun h => absurd h (by simp), fun _ => by simpa using h⟩
  have hneutral : ∀ (c : Char) (tail : List Char), c ≠ '?' → c ≠ '{' →
      Draft.Neutral false false (c :: tail) := fun c tail hc hc' =>
    ⟨by simpa using hc, by simpa [Regex.upcoming, Regex.skipBlanks] using hc,
      Regex.Escape.endsBoundary_of_ne hc'⟩
  have hflags : Flags.resolve g.flags = .ok flags := rfl
  have hsymbols : (SymbolTable.ofNames (g.terms.map Term.name)).isOk := by decide +kernel
  have hcontained : AllContained flags true .opening g.terms := by
    refine ⟨?_, ?_, ?_, ?_, trivial⟩
    · obtain ⟨e, he, -, hframes⟩ := hread "x|(a".toList [false] (by decide +kernel)
      refine .ends he (fun _ => rfl) ?_ (hscanned _ (by decide +kernel))
      rw [hframes]
      simp [flags]
    · obtain ⟨e, he, -, hframes⟩ := hread "b|c?".toList [] (by decide +kernel)
      refine .ends he (fun _ => rfl) ?_ (hscanned _ (by decide +kernel))
      rw [hframes]
      simp
    · obtain ⟨e, he, hv, hframes⟩ := hread "c".toList [] (by decide +kernel)
      have hopened : e.opened.length = 0 := by
        rw [Regex.frames_eq_nil_iff.mp hframes]
        rfl
      refine .breaks (w := ['(', '?', '=']) he (fun tail => ⟨?_, ?_⟩) (fun _ tail => ?_)
        (hscanned _ (by decide +kernel)) ?_ ?_ "d|e)".toList
      · rw [hv]
        rfl
      · rw [hv]
        intro t rest hread
        have hread : none = some (t, rest) := hread
        exact absurd hread (by simp)
      · rw [hv]
        exact hneutral _ _ (by decide) (by decide)
      · rw [hopened]
        exact hcopied _ (by decide +kernel)
      · rw [hopened]
        decide +kernel
    · obtain ⟨e, he, hv, hframes⟩ := hread "|".toList [] (by decide +kernel)
      have hopened : e.opened.length = 0 := by
        rw [Regex.frames_eq_nil_iff.mp hframes]
        rfl
      refine .unfinished (w := ['[', 'd']) he (Draft.refuses_of_not_mem (by decide))
        (fun tail htail => Draft.refuses_of_not_mem ?_) (fun _ tail => ?_)
        (hscanned _ (by decide +kernel)) ?_
      · have hbehind : ']' ∉ Regex.behind false (anchor? flags true) := by decide
        simpa using ⟨hbehind, htail rfl⟩
      · rw [hv]
        exact hneutral _ _ (by decide) (by decide)
      · rw [hopened]
        exact hcopied _ (by decide +kernel)
  have hbad : ∃ term ∈ g.terms, Regex.ofPattern? flags.options term.pattern = none := by
    refine ⟨⟨"group", "x|(a"⟩, List.mem_cons_self, Option.isNone_iff_eq_none.mp ?_⟩
    decide +kernel
  exact ⟨hflags, hsymbols, hcontained, hbad, rejects_of_contained hflags hsymbols hcontained hbad⟩

/-- With word boundaries the anchor behind a backslash mends a pattern that is rejected alone, and
without them a bracket of the next term does. -/
theorem mended_patterns :
    ¬ ∃ wordBoundaries : Bool, ∀ (g : TermGroup) (flags : Flags),
      Flags.resolve g.flags = .ok flags →
      (SymbolTable.ofNames (g.terms.map Term.name)).isOk →
      (∃ term ∈ g.terms, Regex.ofPattern? flags.options term.pattern = none) →
      ∃ options pattern, ofGroup g wordBoundaries = .error (.invalidRegex options pattern) := by
  rintro ⟨wordBoundaries, h⟩
  have hmended : ∀ g : TermGroup, g.flags = some (.bits 0) →
      (SymbolTable.ofNames (g.terms.map Term.name)).isOk →
      (g.terms.any fun term => (Regex.ofPattern?
        (Flags.options ⟨false, false, false, false, false, false⟩) term.pattern).isNone) →
      ¬ (ofGroup g wordBoundaries).isOk := by
    intro g hflags hsymbols hany hok
    obtain ⟨term, hterm, hnone⟩ := List.any_eq_true.mp hany
    obtain ⟨options, pattern, herror⟩ := h g _ (by rw [hflags]; rfl) hsymbols
      ⟨term, hterm, Option.isNone_iff_eq_none.mp hnone⟩
    rw [herror] at hok
    exact absurd hok (by simp [Except.isOk, Except.toBool])
  cases wordBoundaries with
  | true =>
    exact hmended ⟨"g", [⟨"a", "a\\"⟩], some (.bits 0)⟩ rfl (by decide +kernel) (by decide +kernel)
      (by decide +kernel)
  | false =>
    exact hmended ⟨"g", [⟨"a", "[a"⟩, ⟨"b", "b]"⟩], some (.bits 0)⟩ rfl (by decide +kernel)
      (by decide +kernel) (by decide +kernel)

end CompiledGroup
end Gazetteer
