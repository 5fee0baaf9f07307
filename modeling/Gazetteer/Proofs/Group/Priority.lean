import Gazetteer.Isolation
import Gazetteer.Proofs.Group.Compiled

/-! The first declared term wins.

`CompiledGroup.matchAt_eq_winner`: at each place the regex of a group makes the match of the first
declared term whose body matches there, and the captures name that term. So searching the group is
searching for its terms one by one. -/
namespace Gazetteer

open Regex (Cursor Extent Part winner? closes)

namespace Regex

/-- A body that is accepted alone is a part. -/
theorem exists_part {o : Options} {body : List Char} {r : Regex} (symbol : String)
    (h : ofPattern? o (.ofList body) = some r) (hcloses : closes o.verbose body)
    (hsymbol : ∀ c ∈ symbol.toList, c ≠ '>') :
    ∃ p : Part o.verbose, p.symbol = symbol ∧ p.body = body ∧ p.close = Regex.closing o.verbose ∧
      p.IsBody o.mode r := by
  obtain ⟨a, m', ha, hnode, -⟩ := ofPattern?_eq_some h
  obtain ⟨-, e, inComment, hlexed, hopened, hcontent⟩ := Ast.read_eq_some ha
  rw [String.toList_ofList] at hlexed
  refine ⟨⟨symbol, body, closing o.verbose, e, inComment, hlexed, hopened, hlexed.closedBy hcloses,
    hsymbol⟩, rfl, rfl, rfl, m', ?_⟩
  show Node.ofAst o.mode e.level.content = _
  rw [hcontent]
  exact hnode

end Regex

/-- The terms' bodies, as they stand in the pattern of their group, each accepted alone. -/
def AreBodies (flags : Flags) (wordBoundaries : Bool) (terms : List Term) (bodies : List Regex) :
    Prop :=
  List.Forall₂ (fun term body => Regex.ofPattern? flags.options
    (.ofList (CompiledGroup.termBody flags wordBoundaries term.pattern)) = some body) terms bodies

/-- Whether every term's body leaves the parenthesis behind it alone. -/
def allClose (flags : Flags) (wordBoundaries : Bool) (terms : List Term) : Bool :=
  terms.all fun term =>
    closes flags.verbose (CompiledGroup.termBody flags wordBoundaries term.pattern)

namespace AreBodies

variable {flags : Flags} {wordBoundaries : Bool} {terms : List Term} {bodies : List Regex}

/-- Terms whose bodies are accepted alone have bodies. -/
theorem exists_of_accepted (h : ∀ term ∈ terms, (Regex.ofPattern? flags.options
      (.ofList (CompiledGroup.termBody flags wordBoundaries term.pattern))).isSome) :
    ∃ bodies, AreBodies flags wordBoundaries terms bodies := by
  induction terms with
  | nil => exact ⟨[], .nil⟩
  | cons term terms ih =>
    obtain ⟨body, hbody⟩ := Option.isSome_iff_exists.mp (h term (List.mem_cons_self ..))
    obtain ⟨bodies, hbodies⟩ := ih fun t ht => h t (List.mem_cons_of_mem term ht)
    exact ⟨body :: bodies, .cons hbody hbodies⟩

theorem exists_parts (h : AreBodies flags wordBoundaries terms bodies)
    (hcloses : allClose flags wordBoundaries terms) :
    ∃ parts : List (Part flags.options.verbose),
      parts.map Part.text = List.zipWith (fun symbol (term : Term) =>
        CompiledGroup.alternative flags wordBoundaries symbol term.pattern)
          (terms.map fun term => Symbol.ofName term.name) terms ∧
      parts.map Part.symbol = (terms.map fun term => Symbol.ofName term.name) ∧
      List.Forall₂ (Part.IsBody flags.options.mode) parts bodies := by
  induction h with
  | nil => exact ⟨[], rfl, rfl, .nil⟩
  | @cons term body terms bodies hbody _ ih =>
    simp only [allClose, List.all_cons, Bool.and_eq_true] at hcloses
    obtain ⟨parts, htexts, hsymbols, hparts⟩ := ih hcloses.2
    obtain ⟨p, hsymbol, hp, hclose, hnode⟩ := Regex.exists_part (Symbol.ofName term.name) hbody
      hcloses.1 fun c hc => Symbol.ne_of_mem_ofName hc
    refine ⟨p :: parts, ?_, ?_, .cons hnode hparts⟩
    · rw [List.map_cons, List.map_cons, List.zipWith_cons_cons, htexts]
      congr 1
      unfold Part.text CompiledGroup.alternative
      rw [hsymbol, hp, hclose]
      rfl
    · rw [List.map_cons, List.map_cons, hsymbols, hsymbol]

end AreBodies

namespace Regex.Part

variable {verbose : Bool}

/-- The symbols lead to the groups around the bodies. -/
theorem map_symbol {slot : String → Nat} {k : Nat} {parts : List (Part verbose)}
    (h : ∀ i name, (i, some name) ∈ (branches k parts).flatMap Ast.groups → i ∈ slots k parts →
      slot name = i) : (parts.map Part.symbol).map slot = slots k parts := by
  induction parts generalizing k with
  | nil => rfl
  | cons p parts ih =>
    have hfirst := h (k + 1) p.symbol (List.mem_append_left _ (List.mem_cons_self ..))
      (List.mem_cons_self ..)
    rw [List.map_cons, List.map_cons, hfirst, slots]
    congr 1
    exact ih fun i name hi hs => h i name (List.mem_append_right _ hi) (List.mem_cons_of_mem _ hs)

/-- The alternatives of parts are read as the choice between them. -/
theorem ofAst_of_texts {parts : List (Part verbose)} {m : Mode} {a : Ast} (hne : parts ≠ [])
    (ha : Ast.read verbose (.ofList (List.intercalate ['|'] (parts.map text))) = some a) :
    a = .ofBranches (branches 0 parts) ∧ Node.ofAst m a = Node.ofBranches m (branches 0 parts) := by
  obtain ⟨-, z, inComment, hlexed, -, hcontent⟩ := Ast.read_eq_some ha
  have hz := hlexed.addText
  rw [String.toList_ofList] at hz
  obtain ⟨p, parts, rfl⟩ := List.exists_cons_of_ne_nil hne
  have hbranches : a = .ofBranches (branches 0 (p :: parts)) := by
    rw [← hcontent]
    exact (addText_texts p parts (d := .start verbose) rfl rfl rfl hz).2
  refine ⟨hbranches, ?_⟩
  rw [hbranches]
  exact Node.ofAst_ofBranches _ _ (by simp [branches])

/-- A regex whose pattern is the choice between parts finds their groups by name, and prefers at
each place the first part that matches. -/
theorem chooses_of_texts {o : Options} {r : Regex} {parts : List (Part o.verbose)}
    {bodies : List Regex}
    (hr : ofPattern? o (.ofList (List.intercalate ['|'] (parts.map text))) = some r)
    (hparts : List.Forall₂ (IsBody o.mode) parts bodies) (hne : parts ≠ []) :
    (parts.map Part.symbol).map (fun symbol => (r.groups.findIdx? (· == some symbol)).getD 0) =
        slots 0 parts ∧
      (∀ s ∈ slots 0 parts, 0 < s ∧ s < r.groups.length) ∧
      ∀ c, Chooses (slots 0 parts) bodies c (r.node.outcomes c).head? := by
  obtain ⟨a, m', ha, hnode, hgroups⟩ := ofPattern?_eq_some hr
  obtain ⟨hindices, hnames⟩ := numbered_of_read ha
  obtain ⟨n, hn, hslots, -, hchoice⟩ := choice hparts hne 0
  obtain ⟨hbranches, hsame⟩ := ofAst_of_texts (m := o.mode) hne ha
  obtain rfl : n = r.node := by
    rw [hsame, hn] at hnode
    exact (Prod.mk.inj (Option.some.inj hnode)).1
  refine ⟨map_symbol fun i name hi hs => ?_, fun s hs => ⟨lt_of_mem_slots hs, ?_⟩, hchoice⟩
  · rw [← Ast.groups_ofBranches, ← hbranches] at hi
    rw [hgroups, findIdx?_groupList hindices hnames hi (hslots i hs)]
    rfl
  · rw [hgroups]
    exact length_groupList (hslots s hs)

end Regex.Part

namespace CompiledGroup

variable {g : TermGroup} {wordBoundaries : Bool} {c : CompiledGroup} {bodies : List Regex}

/-- The term at place `i` won the match: its capture is the whole match, and no other term's capture
took part. -/
def IsWonBy (c : CompiledGroup) (m : Regex.Match) (i : Nat) : Prop :=
  ∃ s, c.slots[i]? = some s ∧ m.group? s = some m.extent ∧
    ∀ j s', c.slots[j]? = some s' → j ≠ i → m.group? s' = none

theorem IsWonBy.matchedTerm? {m : Regex.Match} {i : Nat} (h : c.IsWonBy m i) :
    c.matchedTerm? m = some i := by
  obtain ⟨s, hs, hwhole, hothers⟩ := h
  obtain ⟨hi, hslot⟩ := List.getElem?_eq_some_iff.mp hs
  refine List.findIdx?_eq_some_iff_getElem.mpr ⟨hi, ?_, fun j hj => ?_⟩
  · rw [hslot, hwhole]
    rfl
  · rw [hothers j _ (List.getElem?_eq_getElem _) (Nat.ne_of_lt hj)]
    simp

theorem group?_matchOf {r : Regex} {start s : Nat} (t : Regex.Thread) (hpos : 0 < s)
    (hlt : s < r.groups.length) : (r.matchOf start t).group? s = t.captured? s := by
  unfold Regex.Match.group? Regex.matchOf
  simp only [List.getElem?_map, List.getElem?_range hlt, Option.map_some, Option.join_some]
  rw [if_neg (by simpa using Nat.ne_of_gt hpos)]

/-- If the pattern of a group is the choice between parts, then each match is won by the term of the
first part that matches. -/
theorem isWonBy_of_parts (hc : ofGroup g wordBoundaries = .ok c)
    {parts : List (Part c.flags.options.verbose)}
    (htexts : parts.map Part.text = List.zipWith (fun symbol (term : Term) =>
      alternative c.flags wordBoundaries symbol term.pattern)
        (g.terms.map fun term => Symbol.ofName term.name) g.terms)
    (hsymbols : parts.map Part.symbol = g.terms.map fun term => Symbol.ofName term.name)
    (hparts : List.Forall₂ (Part.IsBody c.flags.options.mode) parts bodies) (p : Cursor) :
    match c.regex.matchAt p with
    | none => winner? bodies p = none
    | some m => ∃ i, winner? bodies p = some (i, m.extent) ∧ c.IsWonBy m i := by
  obtain ⟨-, hterms, -, -, hregex⟩ := ofGroup_eq_ok hc
  rw [sourceOf, symbols_eq hc, ← htexts] at hregex
  have hne : parts ≠ [] := by
    rintro rfl
    exact hterms (List.map_eq_nil_iff.mp hsymbols.symm)
  obtain ⟨hslots, hbound, hchoice⟩ := Part.chooses_of_texts hregex hparts hne
  have hslots : c.slots = Part.slots 0 parts := by
    rw [slots_eq_map_symbols hc, symbols_eq hc, ← hsymbols]
    exact hslots
  have hgroup : ∀ t : Regex.Thread, ∀ s ∈ c.slots,
      (c.regex.matchOf p.offset t).group? s = t.captured? s := by
    intro t s hs
    rw [hslots] at hs
    exact group?_matchOf t (hbound s hs).1 (hbound s hs).2
  have hchoice := hchoice p
  rw [Regex.matchAt_eq]
  cases hhead : (c.regex.node.outcomes p).head? with
  | none =>
    rw [hhead] at hchoice
    exact hchoice
  | some t =>
    rw [hhead] at hchoice
    obtain ⟨i, x, hwinner, rfl, s, hs, hwhole, hunique⟩ := hchoice
    rw [← hslots] at hs hunique
    refine ⟨i, hwinner, s, hs, ?_, fun j s' hs' hj => ?_⟩
    · rw [hgroup t s (List.mem_of_getElem? hs)]
      exact hwhole
    · rw [hgroup t s' (List.mem_of_getElem? hs')]
      by_contra hsome
      have heq := hunique s' (List.mem_of_getElem? hs') (Option.isSome_iff_ne_none.mpr hsome)
      -- No two terms have the same slot.
      have hnodup : c.slots.Nodup := hslots ▸ Part.nodup_slots 0 parts
      obtain ⟨hlt, hget⟩ := List.getElem?_eq_some_iff.mp hs
      obtain ⟨hlt', hget'⟩ := List.getElem?_eq_some_iff.mp hs'
      exact hj ((List.Nodup.getElem_inj_iff hnodup).mp (hget'.trans (heq.trans hget.symm)))

/-- At each place the regex of a group makes the match of the first declared term whose body
matches there, and attributes it to that term. -/
theorem matchAt_eq_winner (hc : ofGroup g wordBoundaries = .ok c)
    (hbodies : AreBodies c.flags wordBoundaries g.terms bodies)
    (hcloses : allClose c.flags wordBoundaries g.terms) (p : Cursor) :
    (c.regex.matchAt p).map (fun m => (c.matchedTerm? m, m.extent)) =
      (winner? bodies p).map fun w => (some w.1, w.2) := by
  obtain ⟨parts, htexts, hsymbols, hparts⟩ := hbodies.exists_parts hcloses
  have hwon := isWonBy_of_parts hc htexts hsymbols hparts p
  cases hmatch : c.regex.matchAt p with
  | none =>
    rw [hmatch] at hwon
    have hwon : winner? bodies p = none := hwon
    rw [hwon]
    rfl
  | some m =>
    rw [hmatch] at hwon
    obtain ⟨i, hwinner, hi⟩ := hwon
    rw [hwinner, Option.map_some, Option.map_some, hi.matchedTerm?]

/-! ### Searching a group -/

/-- The entity that a term's match stands for. -/
def termEntity? (g : TermGroup) (text : String) (w : Nat × Extent) : Option NamedEntity :=
  g.terms[w.1]?.map fun term =>
    { name := term.name
      entity := g.name
      string := Text.slice text w.2.start w.2.stop
      span := ⟨w.2.start, w.2.stop⟩ }

/-- Searching the group `c` is searching for the bodies of its terms one by one. -/
structure TermByTerm (g : TermGroup) (c : CompiledGroup) (bodies : List Regex) : Prop where
  /-- A search finds the least place at which any body matches, and there the match of the first
  body that does. -/
  find : ∀ p i x, (∃ m, c.regex.find p = some m ∧ c.matchedTerm? m = some i ∧ m.extent = x) ↔
    ∃ q, p.Later q ∧ q.offset = x.start ∧
      (∀ q', p.Later q' → q'.offset < q.offset → ∀ body ∈ bodies, body.matchAt q' = none) ∧
      (∃ body m, bodies[i]? = some body ∧ body.matchAt q = some m ∧ m.extent = x) ∧
      ∀ j body, j < i → bodies[j]? = some body → body.matchAt q = none
  /-- The entities are those of a scan for the winner at each place. -/
  extract : ∀ text, c.extract text =
    (scan (winner? bodies) Prod.snd text).filterMap (termEntity? g text)

theorem matchAt_eq_none_iff (h : ∀ p, (c.regex.matchAt p).map (fun m => (c.matchedTerm? m, m.extent)) =
      (winner? bodies p).map fun w => (some w.1, w.2)) (p : Cursor) :
    c.regex.matchAt p = none ↔ winner? bodies p = none := by
  rw [← Option.map_eq_none_iff (f := fun m => (c.matchedTerm? m, m.extent)), h p,
    Option.map_eq_none_iff]

theorem extract_eq_scan (hname : c.name = g.name) (hnames : c.names = g.terms.map Term.name)
    (h : ∀ p, (c.regex.matchAt p).map (fun m => (c.matchedTerm? m, m.extent)) =
      (winner? bodies p).map fun w => (some w.1, w.2)) (text : String) :
    c.extract text = (scan (winner? bodies) Prod.snd text).filterMap (termEntity? g text) := by
  let named (x : Option Nat × Extent) : Option NamedEntity :=
    x.1.bind fun i => termEntity? g text (i, x.2)
  have hentity : ∀ m : Regex.Match,
      c.entityOf? text m = named (c.matchedTerm? m, m.extent) := by
    intro m
    unfold entityOf?
    rw [hnames, hname]
    cases c.matchedTerm? m with
    | none => rfl
    | some i =>
      show ((g.terms.map Term.name)[i]?).bind _ = termEntity? g text (i, m.extent)
      unfold termEntity?
      rw [List.getElem?_map]
      cases g.terms[i]? <;> rfl
  let both (p : Cursor) : Option (Option Nat × Extent) :=
    (winner? bodies p).map fun w => (some w.1, w.2)
  have hgroup : scan both Prod.snd text =
      (scan c.regex.matchAt Regex.Match.extent text).map fun m => (c.matchedTerm? m, m.extent) :=
    scan_map (fun p => (h p).symm) (fun _ => rfl) text
  have hterms : scan both Prod.snd text =
      (scan (winner? bodies) Prod.snd text).map fun w => (some w.1, w.2) :=
    scan_map (fun _ => rfl) (fun _ => rfl) text
  unfold extract
  rw [Regex.matchesIn_eq_scan, funext hentity]
  calc (scan c.regex.matchAt Regex.Match.extent text).filterMap
        (fun m => named (c.matchedTerm? m, m.extent))
      = ((scan c.regex.matchAt Regex.Match.extent text).map
          fun m => (c.matchedTerm? m, m.extent)).filterMap named := by
        rw [List.filterMap_map]
        rfl
    _ = ((scan (winner? bodies) Prod.snd text).map fun w => (some w.1, w.2)).filterMap named := by
        rw [← hgroup, ← hterms]
    _ = (scan (winner? bodies) Prod.snd text).filterMap (termEntity? g text) := by
        rw [List.filterMap_map]
        rfl

theorem find_iff_winner (h : ∀ p, (c.regex.matchAt p).map (fun m => (c.matchedTerm? m, m.extent)) =
      (winner? bodies p).map fun w => (some w.1, w.2)) (p : Cursor) (i : Nat) (x : Extent) :
    (∃ m, c.regex.find p = some m ∧ c.matchedTerm? m = some i ∧ m.extent = x) ↔
      ∃ q, p.Later q ∧ winner? bodies q = some (i, x) ∧
        ∀ q', p.Later q' → q'.offset < q.offset → winner? bodies q' = none := by
  constructor
  · rintro ⟨m, hfind, hterm, hextent⟩
    obtain ⟨q, hq, hmatch, hleast⟩ := (Regex.find_eq_some_iff ..).mp hfind
    refine ⟨q, hq, ?_, fun q' hq' hlt => (matchAt_eq_none_iff h q').mp (hleast q' hq' hlt)⟩
    have hwinner := h q
    rw [hmatch, Option.map_some, hterm, hextent] at hwinner
    obtain ⟨w, hw, heq⟩ := Option.map_eq_some_iff.mp hwinner.symm
    obtain ⟨hi, hx⟩ := Prod.mk.inj heq
    rw [hw, ← hx, ← Option.some.inj hi]
  · rintro ⟨q, hq, hwinner, hleast⟩
    have hmatch := h q
    rw [hwinner] at hmatch
    obtain ⟨m, hm, heq⟩ := Option.map_eq_some_iff.mp hmatch
    obtain ⟨hterm, hextent⟩ := Prod.mk.inj heq
    refine ⟨m, (Regex.find_eq_some_iff ..).mpr ⟨q, hq, hm, fun q' hq' hlt => ?_⟩, hterm, hextent⟩
    exact (matchAt_eq_none_iff h q').mpr (hleast q' hq' hlt)

/-- If every body leaves the parenthesis behind it alone, then the first declared term wins at the
least place at which any term matches, with its own match. -/
theorem termByTerm_of_allClose (hc : ofGroup g wordBoundaries = .ok c)
    (hbodies : AreBodies c.flags wordBoundaries g.terms bodies)
    (hcloses : allClose c.flags wordBoundaries g.terms) : TermByTerm g c bodies := by
  have hwinner := matchAt_eq_winner hc hbodies hcloses
  refine ⟨fun p i x => (find_iff_winner hwinner p i x).trans ?_,
    extract_eq_scan (name_eq hc) (names_eq hc) hwinner⟩
  have hoffset : ∀ (q : Cursor) (body : Regex) (m : Regex.Match), body.matchAt q = some m → m.extent = x → q.offset = x.start := by
    intro q body m hm hx
    rw [← hx]
    exact (Regex.start_of_matchAt hm).symm
  constructor
  · rintro ⟨q, hq, hw, hleast⟩
    obtain ⟨⟨body, m, hbody, hm, hx⟩, hbefore⟩ := Regex.winner?_eq_some_iff.mp hw
    exact ⟨q, hq, hoffset q body m hm hx,
      fun q' hq' hlt => Regex.winner?_eq_none_iff.mp (hleast q' hq' hlt),
      ⟨body, m, hbody, hm, hx⟩, hbefore⟩
  · rintro ⟨q, hq, -, hleast, hown, hbefore⟩
    exact ⟨q, hq, Regex.winner?_eq_some_iff.mpr ⟨hown, hbefore⟩,
      fun q' hq' hlt => Regex.winner?_eq_none_iff.mpr (hleast q' hq' hlt)⟩

/-- Flags that a term sets for itself end with it. -/
theorem termByTerm_of_own_flags :
    let g : TermGroup := ⟨"g", [⟨"ab", "(?s)a(?P<rest>.)?"⟩, ⟨"b", "b|c"⟩], some (.bits 0)⟩
    ∃ c bodies, ofGroup g true = .ok c ∧ AreBodies c.flags true g.terms bodies ∧
      allClose c.flags true g.terms ∧ TermByTerm g c bodies := by
  intro g
  have hok : (ofGroup g true).isOk := by decide +kernel
  cases hc : ofGroup g true with
  | error e => rw [hc] at hok; exact absurd hok (by simp [Except.isOk, Except.toBool])
  | ok c =>
    have hflags : Flags.none = c.flags := Except.ok.inj (ofGroup_eq_ok hc).1
    have haccepted : ∀ term ∈ g.terms, (Regex.ofPattern? Flags.none.options
        (.ofList (termBody Flags.none true term.pattern))).isSome := by decide +kernel
    have hcloses : allClose Flags.none true g.terms := by decide +kernel
    rw [hflags] at haccepted hcloses
    obtain ⟨bodies, hbodies⟩ := AreBodies.exists_of_accepted haccepted
    exact ⟨c, bodies, rfl, hbodies, hcloses, termByTerm_of_allClose hc hbodies hcloses⟩

/-- A term that turns comments on and leaves one open takes the next term with it. -/
theorem next_term_lost_in_comment :
    ¬ ∀ (g : TermGroup) (wordBoundaries : Bool) (c : CompiledGroup) (bodies : List Regex),
      ofGroup g wordBoundaries = .ok c → AreBodies c.flags wordBoundaries g.terms bodies →
        TermByTerm g c bodies := by
  intro h
  let g : TermGroup := ⟨"g", [⟨"a", "(?x)a#c"⟩, ⟨"b", "b\n"⟩], some (.bits 0)⟩
  let p : Cursor := .ofText "b\n"
  have hnothing : (ofGroup g false).toOption.map (fun c => c.regex.find p) = some none := by
    decide +kernel
  have hfirst : (Regex.ofPattern? Flags.none.options
      (.ofList (termBody Flags.none false "(?x)a#c"))).map (·.matchAt p) = some none := by
    decide +kernel
  have hsecond : (Regex.ofPattern? Flags.none.options
      (.ofList (termBody Flags.none false "b\n"))).map (fun r => (r.matchAt p).map (·.extent)) =
      some (some ⟨0, 2⟩) := by
    decide +kernel
  obtain ⟨a, ha, hfirst⟩ := Option.map_eq_some_iff.mp hfirst
  obtain ⟨b, hb, hsecond⟩ := Option.map_eq_some_iff.mp hsecond
  obtain ⟨m, hm, hextent⟩ := Option.map_eq_some_iff.mp hsecond
  cases hc : ofGroup g false with
  | error e => rw [hc] at hnothing; exact absurd hnothing (by simp [Except.toOption])
  | ok c =>
    have hflags : Flags.none = c.flags := Except.ok.inj (ofGroup_eq_ok hc).1
    rw [hflags] at ha hb
    have hbodies : AreBodies c.flags false g.terms [a, b] := .cons ha (.cons hb .nil)
    have hfound := ((h g false c [a, b] hc hbodies).find p 1 ⟨0, 2⟩).mpr
      ⟨p, .refl p, rfl, fun _ _ hlt => absurd hlt (Nat.not_lt_zero _), ⟨b, m, rfl, hm, hextent⟩,
        fun j body hj hbody => by
          obtain rfl := Nat.lt_one_iff.mp hj
          obtain rfl : a = body := Option.some.inj hbody
          exact hfirst⟩
    obtain ⟨m', hfind, -⟩ := hfound
    rw [hc] at hnothing
    have hnone : c.regex.find p = none := Option.some.inj hnothing
    rw [hnone] at hfind
    exact absurd hfind (by simp)

end CompiledGroup
end Gazetteer
