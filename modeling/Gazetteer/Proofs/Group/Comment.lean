import Gazetteer.Proofs.Group.Rows
import Gazetteer.Proofs.Group.WordBoundary
import Gazetteer.Proofs.Narrowing.Pieces
import Gazetteer.Proofs.Reading.Breakoff

/-! Comments behind the patterns of a verbose group.

Neither narrowing nor anchoring touches a comment behind a pattern
(`CompiledGroup.bodyText_comment`), and both the last anchor of a term and the parenthesis that closes
its alternative stand on lines of their own. So a comment behind one of the patterns is a comment at
the end of a line of the whole pattern (`CompiledGroup.sourceOf_eq`), and the group is read as it is
without the comment (`CompiledGroup.ignoresComment`). -/
namespace Gazetteer

open Regex (Draft Part)

/-! ### The text of a pattern with a comment -/

namespace Pattern

open Outline (level comment Skims)

/-- Outside brackets, escapes and comments. -/
def Outline.InText (s : Outline) : Prop :=
  s.brackets = 0 ∧ s.escaped = false ∧ s.inComment = false

instance (s : Outline) : Decidable s.InText := inferInstanceAs (Decidable (_ ∧ _ ∧ _))

variable {p k : List Char}

theorem Outline.InText.eq_level {s : Outline} (h : s.InText) (ht : s.Tame) :
    s = level s.depth := by
  obtain ⟨depth, brackets, fresh, escaped, inComment⟩ := s
  obtain ⟨rfl, rfl, rfl⟩ := h
  obtain rfl : fresh = false := ht rfl
  rfl

theorem skims_comment (hk : '\n' ∉ k) (n : Nat) : Skims true (level n) ('#' :: k) (comment n) := by
  have hcomment : Regex.commentAfter false ('#' :: k) = some true :=
    Regex.commentAfter_of_notMem hk
  exact Regex.skims_of_commentAfter hcomment n

theorem skims_comment_of_inText (h : (Outline.start.after true p).InText) (hk : '\n' ∉ k) :
    Skims true (Outline.start.after true p) ('#' :: k)
      (comment (Outline.start.after true p).depth) := by
  have hskims := skims_comment hk (Outline.start.after true p).depth
  rwa [← h.eq_level (Outline.tame_start.after p)] at hskims

theorem asciiOnly_comment (h : (Outline.start.after true p).InText) (hk : '\n' ∉ k) :
    asciiOnly true (p ++ '#' :: k) = asciiOnly true p ++ '#' :: k := by
  have hcopied := asciiFrom_of_unescaped (skims_comment_of_inText h hk).unescaped []
  rw [List.append_nil, asciiFrom, List.append_nil] at hcopied
  unfold asciiOnly
  rw [asciiFrom_append h.2.1, hcopied]

theorem anchorSeparators_comment (anchor : Anchor) (h : (Outline.start.after true p).InText)
    (hk : '\n' ∉ k) : anchorSeparators anchor (Outline.start.marks true (p ++ '#' :: k)) =
      anchorSeparators anchor (Outline.start.marks true p) ++ '#' :: k := by
  have hcopied := anchorSeparators_of_quiet anchor (skims_comment_of_inText h hk).quiet
  rw [Outline.marks_append]
  unfold anchorSeparators at hcopied ⊢
  rw [List.flatMap_append, hcopied]

end Pattern

theorem Regex.ofPattern?_congr {o : Options} {p q : String}
    (h : (Draft.start o.verbose).addText p.toList = (Draft.start o.verbose).addText q.toList) :
    ofPattern? o p = ofPattern? o q := by
  unfold ofPattern? Ast.read
  rw [h]

open Pattern (Outline)

namespace CompiledGroup

variable {flags : Flags} {wordBoundaries : Bool} {pattern note : String}

/-- A term's body up to the end of its pattern. -/
def bodyText (flags : Flags) (wordBoundaries : Bool) (pattern : String) : List Char :=
  let text := narrowed flags pattern
  if wordBoundaries then
    flags.anchor.text ++
      Pattern.anchorSeparators flags.anchor (Outline.start.marks flags.verbose text)
  else text

/-- What stands on the lines behind the pattern of a term in the alternative of the term. -/
def bodyEnd (flags : Flags) (wordBoundaries : Bool) : List Char :=
  if wordBoundaries then flags.anchor.text ++ ['\n', ')'] else [')']

theorem narrowed_comment (hv : flags.verbose = true)
    (hscan : (Outline.start.after true pattern.toList).InText) (hnote : '\n' ∉ note.toList) :
    narrowed flags (pattern ++ "#" ++ note) = narrowed flags pattern ++ '#' :: note.toList := by
  unfold narrowed
  rw [hv, String.toList_append, String.toList_append, List.append_assoc]
  cases flags.ascii with
  | false => rfl
  | true => exact Pattern.asciiOnly_comment hscan hnote

theorem after_narrowed (hv : flags.verbose = true) (pattern : String) :
    Outline.start.after true (narrowed flags pattern) =
      Outline.start.after true pattern.toList := by
  unfold narrowed
  rw [hv]
  cases flags.ascii with
  | false => rfl
  | true => exact Pattern.after_asciiFrom rfl

/-- Neither narrowing nor anchoring touches a comment. -/
theorem bodyText_comment (hv : flags.verbose = true)
    (hscan : (Outline.start.after true pattern.toList).InText) (hnote : '\n' ∉ note.toList) :
    bodyText flags wordBoundaries (pattern ++ "#" ++ note) =
      bodyText flags wordBoundaries pattern ++ '#' :: note.toList := by
  have hnarrowed : (Outline.start.after true (narrowed flags pattern)).InText := by
    rw [after_narrowed hv]
    exact hscan
  unfold bodyText
  rw [narrowed_comment hv hscan hnote]
  cases wordBoundaries with
  | false => rfl
  | true =>
    rw [if_pos rfl, if_pos rfl, hv, Pattern.anchorSeparators_comment _ hnarrowed hnote,
      List.append_assoc]

theorem termBody_eq (hv : flags.verbose = true) (wordBoundaries : Bool) (pattern : String) :
    termBody flags wordBoundaries pattern ++ ['\n', ')'] =
      bodyText flags wordBoundaries pattern ++ '\n' :: bodyEnd flags wordBoundaries := by
  cases wordBoundaries with
  | false => rfl
  | true =>
    show Pattern.bounded flags.anchor flags.verbose (narrowed flags pattern) ++ _ = _
    unfold Pattern.bounded bodyText bodyEnd
    rw [if_pos hv, if_pos rfl, if_pos rfl, List.append_assoc, List.append_assoc]
    rfl

/-- What stands behind the pattern of a term stands on lines of its own. -/
theorem alternative_eq (hv : flags.verbose = true) (wordBoundaries : Bool)
    (symbol pattern : String) :
    alternative flags wordBoundaries symbol pattern =
      ['(', '?', 'P', '<'] ++ symbol.toList ++ ['>'] ++ bodyText flags wordBoundaries pattern ++
        '\n' :: bodyEnd flags wordBoundaries := by
  unfold alternative
  rw [if_pos hv, List.append_assoc, termBody_eq hv, ← List.append_assoc]

/-! ### The text of a group with a comment -/

/-- The pattern of a group up to the end of the pattern of a term. -/
def textUntil (flags : Flags) (wordBoundaries : Bool) (before : List Term) (term : Term) :
    List Char :=
  (before.flatMap fun t =>
      alternative flags wordBoundaries (Symbol.ofName t.name) t.pattern ++ ['|']) ++
    (['(', '?', 'P', '<'] ++ (Symbol.ofName term.name).toList ++ ['>'] ++
      bodyText flags wordBoundaries term.pattern)

/-- The lines that follow. -/
def textBehind (flags : Flags) (wordBoundaries : Bool) (later : List Term) : List Char :=
  bodyEnd flags wordBoundaries ++ later.flatMap fun t =>
    '|' :: alternative flags wordBoundaries (Symbol.ofName t.name) t.pattern

theorem intercalate_cons_bar (a : List Char) (later : List (List Char)) :
    List.intercalate ['|'] (a :: later) = a ++ later.flatMap ('|' :: ·) := by
  induction later generalizing a with
  | nil => rw [List.intercalate_singleton, List.flatMap_nil, List.append_nil]
  | cons b later ih =>
    rw [List.intercalate_cons_cons, ih, List.flatMap_cons, List.append_assoc]
    rfl

theorem intercalate_append_bar (before : List (List Char)) (a : List Char)
    (later : List (List Char)) : List.intercalate ['|'] (before ++ a :: later) =
      before.flatMap (· ++ ['|']) ++ (a ++ later.flatMap ('|' :: ·)) := by
  induction before with
  | nil => exact intercalate_cons_bar a later
  | cons b before ih =>
    cases hrest : before ++ a :: later with
    | nil => exact absurd hrest (by simp)
    | cons c rest =>
      rw [hrest] at ih
      rw [List.cons_append, hrest, List.intercalate_cons_cons, ih, List.flatMap_cons,
        List.append_assoc, List.append_assoc, List.append_assoc]

/-- The pattern of a verbose group cut at the end of the pattern of one of the terms. -/
theorem sourceOf_eq (hv : flags.verbose = true) (wordBoundaries : Bool) (before : List Term)
    (term : Term) (later : List Term) :
    sourceOf flags wordBoundaries (symbolsOf (before ++ term :: later)) (before ++ term :: later) =
      .ofList (textUntil flags wordBoundaries before term ++
        '\n' :: textBehind flags wordBoundaries later) := by
  unfold sourceOf symbolsOf textUntil textBehind
  rw [List.zipWith_map_left, List.zipWith_self, List.map_append, List.map_cons,
    intercalate_append_bar, alternative_eq hv _ _ term.pattern, List.flatMap_map,
    List.flatMap_map]
  simp only [List.append_assoc, List.cons_append]

theorem textUntil_comment (hv : flags.verbose = true)
    (hscan : (Outline.start.after true pattern.toList).InText) (hnote : '\n' ∉ note.toList)
    (before : List Term) (name : String) :
    textUntil flags wordBoundaries before ⟨name, pattern ++ "#" ++ note⟩ =
      textUntil flags wordBoundaries before ⟨name, pattern⟩ ++ '#' :: note.toList := by
  unfold textUntil
  rw [bodyText_comment hv hscan hnote]
  simp only [List.append_assoc]

theorem upcoming_textBehind (flags : Flags) (wordBoundaries : Bool) (later : List Term) :
    Regex.upcoming true (textBehind flags wordBoundaries later) ≠ some '?' := by
  unfold textBehind bodyEnd Flags.anchor
  cases wordBoundaries with
  | false => simp [Regex.upcoming, Draft.skipBlanks_close]
  | true =>
    have hhead : ∀ c cs, (c = '\\' ∨ c = '(') → Regex.upcoming true (c :: cs) ≠ some '?' := by
      rintro c cs (rfl | rfl) <;>
        rw [Regex.upcoming, Regex.skipBlanks_of_isSolid (by decide)] <;> simp
    cases flags.ascii with
    | false => exact hhead '\\' _ (.inl rfl)
    | true => exact hhead '(' _ (.inr rfl)

/-! ### Groups that are read alike -/

/-- The outcome with another text for the pattern, be it compiled or refused. -/
def respell (source : String) :
    Except CompileError CompiledGroup → Except CompileError CompiledGroup
  | .ok c => .ok { c with source }
  | .error (.invalidRegex options _) => .error (.invalidRegex options source)
  | .error e => .error e

/-- Two groups are compiled to the same, up to the text of the pattern, or not at all for the same
reason; so the same is found. -/
structure SameOutcome (c c' : Except CompileError CompiledGroup) : Prop where
  compiled : ∃ source, c' = respell source c
  extracted : ∀ text,
    (c'.map (·.extract text)).toOption = (c.map (·.extract text)).toOption
  isolated : ∀ term text method,
    (c'.map (·.isolate term text method)).toOption = (c.map (·.isolate term text method)).toOption

theorem SameOutcome.of_respell {c c' : Except CompileError CompiledGroup} (source : String)
    (h : c' = respell source c) : SameOutcome c c' := by
  subst h
  cases c with
  | error e => cases e <;> exact ⟨⟨source, rfl⟩, fun _ => rfl, fun _ _ _ => rfl⟩
  | ok c => exact ⟨⟨source, rfl⟩, fun _ => rfl, fun _ _ _ => rfl⟩

/-- Groups with the same names whose patterns are read alike differ in their patterns only. -/
theorem sameOutcome_of_read {directive : Option Directive} {terms terms' : List Term}
    (hflags : Flags.resolve directive = .ok flags)
    (hnames : terms'.map Term.name = terms.map Term.name)
    (hread : Regex.ofPattern? flags.options
        (sourceOf flags wordBoundaries (symbolsOf terms') terms') =
      Regex.ofPattern? flags.options (sourceOf flags wordBoundaries (symbolsOf terms) terms))
    (group : String) : SameOutcome (ofGroup ⟨group, terms, directive⟩ wordBoundaries)
      (ofGroup ⟨group, terms', directive⟩ wordBoundaries) := by
  have hempty : terms'.isEmpty = terms.isEmpty := by
    rw [← List.isEmpty_map (f := Term.name), hnames, List.isEmpty_map]
  have hsymbols : symbolsOf terms' = symbolsOf terms := by
    have hmap := congrArg (List.map Symbol.ofName) hnames
    rwa [List.map_map, List.map_map] at hmap
  refine .of_respell (sourceOf flags wordBoundaries (symbolsOf terms') terms') ?_
  unfold ofGroup
  simp only [hflags, hnames, hempty]
  cases htable : SymbolTable.ofNames (terms.map Term.name) with
  | error e => cases terms.isEmpty <;> rfl
  | ok symbols =>
    have hsymbols' : symbols.symbols = symbolsOf terms := symbols_of_ok htable
    rw [hsymbols] at hread
    cases terms.isEmpty with
    | true => rfl
    | false =>
      simp only [Except.mapError, bind, Except.bind, hsymbols', hsymbols, hread]
      generalize Regex.ofPattern? flags.options
        (sourceOf flags wordBoundaries (symbolsOf terms) terms) = regex
      cases regex <;> rfl

end CompiledGroup

/-! ### Where a comment is left out -/

namespace Regex

variable {d e : Draft} {symbol : String} {rest tail body close : List Char}

namespace Draft

theorem skipsComment_opening (hv : d.verbose = true) (hsymbol : ∀ c ∈ symbol.toList, c ≠ '>')
    (h : (d.opening symbol).skipsComment rest) :
    d.skipsComment (['(', '?', 'P', '<'] ++ symbol.toList ++ ['>'] ++ rest) := by
  have hopen : isSolid d.verbose '(' := by
    rw [hv]
    decide
  unfold skipsComment
  rw [unread_eq, List.append_assoc, List.append_assoc, List.cons_append,
    skipBlanks_of_isSolid hopen, ← List.cons_append, ← List.append_assoc, ← List.append_assoc]
  simp only [List.cons_append]
  cases hread : Token.read d.verbose ('(' :: _) with
  | none => simp [hv]
  | some x =>
    obtain rfl := read_opening hsymbol hread
    cases hadd : d.add (.openGroup (.capture (some symbol))) with
    | none => simp only [hadd, Option.bind_none]
    | some d' =>
      simp only [hadd, Option.bind_some]
      rw [add_opening hadd]
      exact h

/-- Behind an alternative whose body is read alone a comment is left out if it is behind the group
that the alternative becomes. -/
theorem skipsComment_alternative {o : Bool} (h : Lexed (start true) body e o)
    (hopened : e.opened = []) (hclosed : e.ClosedBy o close)
    (hsymbol : ∀ c ∈ symbol.toList, c ≠ '>') (hd : d.opened = []) (hv : d.verbose = true)
    (htail : (d.capturing symbol e).skipsComment tail) :
    d.skipsComment (['(', '?', 'P', '<'] ++ symbol.toList ++ ['>'] ++ body ++ close ++ tail) := by
  rw [List.append_assoc, List.append_assoc]
  refine skipsComment_opening hv hsymbol ?_
  obtain ⟨level, opened, verbose, captures, names⟩ := d
  obtain rfl : opened = [] := hd
  obtain rfl : verbose = true := hv
  obtain ⟨hn, hskip⟩ := hclosed tail
  let inner : Draft := opening ⟨level, [], true, captures, names⟩ symbol
  have hstart : inner.within (start true) = inner := within_start rfl
  show inner.skipsComment _
  rw [← hstart]
  refine h.skipsComment_within inner hn ?_
  rw [skipsComment_congr (d := inner.within e) (hskip.trans (skipBlanks_close _ tail).symm)]
  refine (skipsComment_token (d := inner.within e) (b := []) (w := [')']) (Blank.nil _) .close
    (isSolid_close _)).trans ?_
  unfold add within
  rw [hopened]
  simp only [List.map_nil, List.nil_append, Level.content_renumber]
  exact htail

end Draft

theorem Part.skipsComment_texts {verbose : Bool} (hverbose : verbose = true)
    (parts : List (Part verbose)) (hopened : d.opened = []) (hv : d.verbose = true)
    (h : ∀ d' : Draft, d'.opened = [] → d'.verbose = true → d'.skipsComment tail) :
    d.skipsComment ((parts.flatMap fun p => p.text ++ ['|']) ++ tail) := by
  subst hverbose
  induction parts generalizing d with
  | nil => exact h d hopened hv
  | cons p parts ih =>
    rw [List.flatMap_cons, List.append_assoc, List.append_assoc]
    refine Draft.skipsComment_alternative p.lexed p.opened p.closed p.symbolic hopened hv ?_
    have hbar : isSolid d.verbose '|' := by
      rw [hv]
      decide
    refine (Draft.skipsComment_token (d := d.capturing p.symbol p.draft) (b := []) (w := ['|'])
      (Blank.nil _) .bar hbar).trans ?_
    let e := d.capturing p.symbol p.draft
    exact ih (d := { e with level := e.level.bar }) rfl hv

end Regex

namespace CompiledGroup

variable {before : List Term} {flags : Flags} {wordBoundaries : Bool} {pattern note : String}

/-- Behind terms that are enclosed, a comment is left out behind a body that ends in a verbose
place. -/
theorem skipsComment_textUntil (hv : flags.verbose = true) (term : Term)
    (hbefore : allEnclosed flags wordBoundaries before)
    (hbody : Regex.closes true (bodyText flags wordBoundaries term.pattern)) :
    (Draft.start true).skipsComment (textUntil flags wordBoundaries before term) := by
  obtain ⟨parts, htexts, -, -⟩ := exists_parts_of_allEnclosed hbefore
  have hread : ((Draft.start true).addText (bodyText flags wordBoundaries term.pattern)).any
      (·.verbose) := hbody
  obtain ⟨e, he, hverbose⟩ := (Option.any_eq_true ..).mp hread
  obtain ⟨o, hlexed⟩ := Draft.addText_sound he
  have hbodies : (before.flatMap fun t => alternative flags wordBoundaries (Symbol.ofName t.name)
      t.pattern ++ ['|']) = parts.flatMap fun p => p.text ++ ['|'] := by
    rw [List.zipWith_map_left, List.zipWith_self] at htexts
    rw [← List.flatMap_map (f := Part.text) (g := (· ++ ['|'])), htexts, List.flatMap_map]
  unfold textUntil
  rw [hbodies]
  refine Part.skipsComment_texts hv parts rfl rfl fun d hopened hv => ?_
  refine Draft.skipsComment_opening hv (fun c hc => Symbol.ne_of_mem_ofName hc) ?_
  have hstart : (d.opening (Symbol.ofName term.name)).within (.start true) =
      d.opening (Symbol.ofName term.name) := by
    rw [← hv]
    exact Draft.within_start rfl
  have hend := hlexed.skipsComment_within (d.opening (Symbol.ofName term.name))
    (.nil e.verbose o) (by
      have hnil : (if o then Regex.dropBlanks true [] else []) = [] := by cases o <;> rfl
      rw [hnil, Draft.skipsComment_nil]
      exact hverbose)
  rwa [hstart, List.append_nil] at hend

/-! ### A comment in a group -/

/-- **A comment behind a pattern of a verbose group is inert.** -/
theorem ignoresComment {directive : Option Directive}
    (hflags : Flags.resolve directive = .ok flags) (hv : flags.verbose = true)
    (hscan : (Outline.start.after true pattern.toList).InText) (hnote : '\n' ∉ note.toList)
    (group name : String) (before later : List Term) (wordBoundaries : Bool) :
    let terms := before ++ ⟨name, pattern⟩ :: later
    let noted := before ++ ⟨name, pattern ++ "#" ++ note⟩ :: later
    let text := textUntil flags wordBoundaries before ⟨name, pattern⟩
    let behind := textBehind flags wordBoundaries later
    sourceOf flags wordBoundaries (symbolsOf terms) terms = .ofList (text ++ '\n' :: behind) ∧
    sourceOf flags wordBoundaries (symbolsOf noted) noted =
      .ofList (text ++ '#' :: (note.toList ++ '\n' :: behind)) ∧
    ((Draft.start true).skipsComment text →
      SameOutcome (ofGroup ⟨group, terms, directive⟩ wordBoundaries)
        (ofGroup ⟨group, noted, directive⟩ wordBoundaries)) ∧
    (allEnclosed flags wordBoundaries before →
      Regex.closes true (bodyText flags wordBoundaries pattern) →
        (Draft.start true).skipsComment text) := by
  intro terms noted text behind
  have hplain : sourceOf flags wordBoundaries (symbolsOf terms) terms =
      .ofList (text ++ '\n' :: behind) := sourceOf_eq hv wordBoundaries before _ later
  have hnoted : sourceOf flags wordBoundaries (symbolsOf noted) noted =
      .ofList (text ++ '#' :: (note.toList ++ '\n' :: behind)) := by
    have hcut := sourceOf_eq hv wordBoundaries before ⟨name, pattern ++ "#" ++ note⟩ later
    rwa [textUntil_comment hv hscan hnote, List.append_assoc, List.cons_append] at hcut
  refine ⟨hplain, hnoted, fun hskips => ?_, skipsComment_textUntil hv ⟨name, pattern⟩⟩
  refine sameOutcome_of_read hflags (by simp [terms, noted]) (Regex.ofPattern?_congr ?_) group
  show (Draft.start flags.verbose).addText _ = (Draft.start flags.verbose).addText _
  rw [hplain, hnoted, hv, String.toList_ofList, String.toList_ofList]
  exact Draft.addText_comment hnote (upcoming_textBehind flags wordBoundaries later) hskips

/-- The comment holds bars, parentheses, a bracket, class escapes and a backslash at its end. -/
theorem ignoresComment_with_bars :
    let flags : Flags := ⟨false, false, false, false, true, true⟩
    let before : List Term := [⟨"date", "\\d+-\\d+ # day|month"⟩]
    let later : List Term := [⟨"rest", "[^x]"⟩]
    let pattern := "[\\w|]+ \\# | (?i: now)"
    let note := " |x) (?-x) [ \\w\\S\\"
    Flags.resolve (some (.bits 320)) = .ok flags ∧ flags.verbose = true ∧
      (Outline.start.after true pattern.toList).InText ∧ '\n' ∉ note.toList ∧
      allEnclosed flags true before ∧ Regex.closes true (bodyText flags true pattern) ∧
      (ofGroup ⟨"g", before ++ ⟨"p", pattern⟩ :: later, some (.bits 320)⟩ true).isOk ∧
      SameOutcome (ofGroup ⟨"g", before ++ ⟨"p", pattern⟩ :: later, some (.bits 320)⟩ true)
        (ofGroup ⟨"g", before ++ ⟨"p", pattern ++ "#" ++ note⟩ :: later, some (.bits 320)⟩
          true) := by
  intro flags before later pattern note
  have hflags : Flags.resolve (some (.bits 320)) = .ok flags := rfl
  have hscan : (Outline.start.after true pattern.toList).InText := by decide +kernel
  have hnote : '\n' ∉ note.toList := by decide +kernel
  have hbefore : allEnclosed flags true before := by decide +kernel
  have hbody : Regex.closes true (bodyText flags true pattern) := by decide +kernel
  obtain ⟨-, -, hsame, hskips⟩ :=
    ignoresComment hflags rfl hscan hnote "g" "p" before later true
  exact ⟨hflags, rfl, hscan, hnote, hbefore, hbody, by decide +kernel,
    hsame (hskips hbefore hbody)⟩

/-- A term that closes its own group and turns verbosity off makes the comment behind the next
pattern a part of that pattern. -/
theorem comment_read_as_pattern :
    ¬ ∀ (directive : Option Directive) (flags : Flags) (group name pattern note : String)
      (before later : List Term) (wordBoundaries : Bool),
      Flags.resolve directive = .ok flags → flags.verbose = true →
      (Outline.start.after true pattern.toList).InText → '(' ∉ pattern.toList →
      '\n' ∉ note.toList →
      SameOutcome (ofGroup ⟨group, before ++ ⟨name, pattern⟩ :: later, directive⟩ wordBoundaries)
        (ofGroup ⟨group, before ++ ⟨name, pattern ++ "#" ++ note⟩ :: later, directive⟩
          wordBoundaries) := by
  intro h
  let before : List Term := [⟨"q", "x)(?-x)(y"⟩]
  let flags : Flags := ⟨false, false, false, false, true, false⟩
  have hsame := (h (some (.bits 64)) flags "g" "p" "a" "c" before [] false rfl rfl
    (by decide +kernel) (by decide +kernel) (by decide +kernel)).extracted "a\n"
  have hplain : ((ofGroup ⟨"g", before ++ [⟨"p", "a"⟩], some (.bits 64)⟩ false).map
      (·.extract "a\n")).toOption = some [⟨"p", "g", "a\n", ⟨0, 2⟩⟩] := by decide +kernel
  have hnoted : ((ofGroup ⟨"g", before ++ [⟨"p", "a" ++ "#" ++ "c"⟩], some (.bits 64)⟩ false).map
      (·.extract "a\n")).toOption = some [] := by decide +kernel
  rw [hplain, hnoted] at hsame
  exact absurd (Option.some.inj hsame) (by simp)

end CompiledGroup
end Gazetteer
