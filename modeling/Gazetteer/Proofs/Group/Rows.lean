import Gazetteer.Proofs.Group.Isolation
import Gazetteer.Proofs.Group.Priority

/-! The captures of a match.

If every body is enclosed by the group around it, each match is won by one term: its capture is the
whole match, and no other term's takes part (`CompiledGroup.exists_isWonBy`). The rows that isolation
gives are then those of the term's own matches (`CompiledGroup.rowsMatch_of_allEnclosed`). A body
that is not enclosed can take the group of another term away, whose capture is then taken for the
whole match (`CompiledGroup.row_without_match`). -/
namespace Gazetteer

open Regex (Draft Mode Node Part)

/-! ### Bodies that are enclosed -/

/-- Whether a parenthesis behind the body closes the group that the body stands in: the body is a
pattern of its own and leaves no comment open. -/
def Regex.encloses (verbose : Bool) (body : List Char) : Bool :=
  ((Draft.start verbose).addText body).any (·.opened.isEmpty) &&
    ((Draft.start verbose).addText (body ++ [')'])).isNone

/-- Whether every term's body is enclosed. In a verbose pattern a line end belongs to the body. -/
def allEnclosed (flags : Flags) (wordBoundaries : Bool) (terms : List Term) : Bool :=
  terms.all fun term =>
    Regex.encloses flags.verbose (CompiledGroup.termBody flags wordBoundaries term.pattern ++
      if flags.verbose then ['\n'] else [])

namespace Regex

/-- A body that is enclosed is a part. -/
theorem exists_part_of_encloses {verbose : Bool} {body : List Char} (symbol : String)
    (h : encloses verbose body) (hsymbol : ∀ c ∈ symbol.toList, c ≠ '>') :
    ∃ p : Part verbose, p.symbol = symbol ∧ p.body = body ∧ p.close = [')'] := by
  unfold encloses at h
  rw [Bool.and_eq_true, Option.any_eq_true] at h
  obtain ⟨⟨e, he, hopened⟩, hparen⟩ := h
  obtain ⟨inComment, hlexed⟩ := Draft.addText_sound he
  cases inComment with
  | false =>
    exact ⟨⟨symbol, body, [')'], e, false, hlexed, List.isEmpty_iff.mp hopened, e.closedBy_paren,
      hsymbol⟩, rfl, rfl, rfl⟩
  | true =>
    rw [hlexed.addText_paren_of_comment] at hparen
    exact absurd hparen (by simp)

/-- The branches of a choice that has a node have nodes of their own. -/
theorem Part.exists_bodies {verbose : Bool} {m : Mode} {parts : List (Part verbose)} {k : Nat}
    {x : Node × Mode} (h : Node.ofBranches m (branches k parts) = some x) :
    ∃ bodies, List.Forall₂ (IsBody m) parts bodies := by
  have hbranch : ∀ (p : Part verbose) (k : Nat) (x : Node × Mode),
      Node.ofAst m (p.branch k) = some x → x.2 = m ∧ ∃ r, p.IsBody m r := by
    intro p k x hx
    have hx : (Node.ofAst m (p.ast.renumber (k + 1 + ·))).map _ = some x := hx
    rw [Node.ofAst_renumber, Option.map_map] at hx
    obtain ⟨⟨n, m'⟩, hn, rfl⟩ := Option.map_eq_some_iff.mp hx
    exact ⟨rfl, ⟨n, []⟩, m', hn⟩
  induction parts generalizing k x with
  | nil => exact ⟨[], .nil⟩
  | cons p parts ih =>
    cases parts with
    | nil =>
      obtain ⟨-, r, hr⟩ := hbranch p k x h
      exact ⟨[r], .cons hr .nil⟩
    | cons q parts =>
      obtain ⟨⟨first, m'⟩, hfirst, h⟩ := Option.bind_eq_some_iff.mp h
      obtain ⟨y, hrest, -⟩ := Option.bind_eq_some_iff.mp h
      obtain ⟨hm, r, hr⟩ := hbranch p k _ hfirst
      obtain rfl : m' = m := hm
      obtain ⟨bodies, hbodies⟩ := ih hrest
      exact ⟨r :: bodies, .cons hr hbodies⟩

end Regex

namespace CompiledGroup

variable {g : TermGroup} {wordBoundaries : Bool} {c : CompiledGroup} {i : Nat} {term text : String}

theorem exists_parts_of_allEnclosed {flags : Flags} {terms : List Term}
    (h : allEnclosed flags wordBoundaries terms) :
    ∃ parts : List (Part flags.options.verbose),
      parts.map Part.text = List.zipWith (fun symbol (term : Term) =>
        alternative flags wordBoundaries symbol term.pattern)
          (terms.map fun term => Symbol.ofName term.name) terms ∧
      (parts.map Part.symbol = terms.map fun term => Symbol.ofName term.name) ∧
      parts.map Part.body = terms.map fun term =>
        termBody flags wordBoundaries term.pattern ++ if flags.verbose then ['\n'] else [] := by
  induction terms with
  | nil => exact ⟨[], rfl, rfl, rfl⟩
  | cons term terms ih =>
    simp only [allEnclosed, List.all_cons, Bool.and_eq_true] at h
    obtain ⟨parts, htexts, hsymbols, hbodies⟩ := ih h.2
    obtain ⟨p, hsymbol, hbody, hclose⟩ : ∃ p : Part flags.options.verbose, _ :=
      Regex.exists_part_of_encloses (Symbol.ofName term.name) h.1
        fun c hc => Symbol.ne_of_mem_ofName hc
    refine ⟨p :: parts, ?_, ?_, ?_⟩
    · rw [List.map_cons, List.map_cons, List.zipWith_cons_cons, htexts]
      congr 1
      unfold Part.text alternative
      rw [hsymbol, hbody, hclose]
      cases flags.verbose <;> simp
    · rw [List.map_cons, List.map_cons, hsymbols, hsymbol]
    · rw [List.map_cons, List.map_cons, hbodies, hbody]

/-- Each match of a group whose bodies are enclosed is won by one of its terms. -/
theorem exists_isWonBy (hc : ofGroup g wordBoundaries = .ok c)
    (h : allEnclosed c.flags wordBoundaries g.terms) {p : Regex.Cursor} {m : Regex.Match}
    (hm : c.regex.matchAt p = some m) : ∃ i, i < g.terms.length ∧ c.IsWonBy m i := by
  obtain ⟨parts, htexts, hsymbols, -⟩ := exists_parts_of_allEnclosed h
  obtain ⟨-, hterms, -, -, hregex⟩ := ofGroup_eq_ok hc
  rw [sourceOf, symbols_eq hc, ← htexts] at hregex
  obtain ⟨a, m', ha, hnode, -⟩ := Regex.ofPattern?_eq_some hregex
  have hne : parts ≠ [] := by
    rintro rfl
    exact hterms (List.map_eq_nil_iff.mp hsymbols.symm)
  rw [(Part.ofAst_of_texts hne ha).2] at hnode
  obtain ⟨bodies, hbodies⟩ := Part.exists_bodies hnode
  have hwon := isWonBy_of_parts hc htexts hsymbols hbodies p
  rw [hm] at hwon
  obtain ⟨i, -, hi⟩ := hwon
  refine ⟨i, ?_, hi⟩
  obtain ⟨s, hs, -⟩ := hi
  rw [← length_slots hc]
  exact (List.getElem?_eq_some_iff.mp hs).1

/-! ### Rows -/

/-- The row of a match that the term at place `i` of `n` terms won. -/
def wonRow (n i : Nat) (string : String) : List String :=
  (List.range n).map fun j => if j = i then string else ""

theorem IsWonBy.captureText {m : Regex.Match} {j s : Nat} (h : c.IsWonBy m i)
    (hs : c.slots[j]? = some s) :
    captureText text m s = if j = i then matchText text m else "" := by
  obtain ⟨s', hs', hwhole, hothers⟩ := h
  unfold CompiledGroup.captureText
  split
  · rename_i e he
    by_cases hj : j = i
    · subst hj
      obtain rfl : s' = s := Option.some.inj (hs'.symm.trans hs)
      rw [hwhole] at he
      rw [if_pos rfl, ← Option.some.inj he]
      rfl
    · rw [hothers j s hs hj] at he
      exact absurd he (by simp)
  · rename_i hnone
    rw [if_neg]
    rintro rfl
    obtain rfl : s' = s := Option.some.inj (hs'.symm.trans hs)
    rw [hwhole] at hnone
    exact absurd hnone (by simp)

theorem IsWonBy.map_captureText {m : Regex.Match} (h : c.IsWonBy m i) :
    c.slots.map (CompiledGroup.captureText text m) =
      wonRow c.slots.length i (matchText text m) := by
  refine List.ext_getElem (by simp [wonRow]) fun j hj _ => ?_
  rw [List.length_map] at hj
  rw [List.getElem_map, h.captureText (List.getElem?_eq_getElem hj)]
  simp [wonRow]

/-- The rows of a term are those of the matches that it won with some text. -/
theorem rows_eq (hc : ofGroup g wordBoundaries = .ok c)
    (h : allEnclosed c.flags wordBoundaries g.terms) (hi : i < g.terms.length) (term text : String) :
    c.rows i text = ((c.termMatches i term text).filter (·.string ≠ "")).map
      fun m => wonRow g.terms.length i m.string := by
  have hslot : c.slots[i]? = some (c.slots[i]?.getD 0) := by
    rw [← length_slots hc] at hi
    rw [List.getElem?_eq_getElem hi, Option.getD_some]
  unfold rows termMatches
  simp only
  rw [← List.filterMap_eq_map, List.filterMap_filter, List.filter_filterMap, List.map_filterMap]
  refine List.filterMap_congr fun m hm => ?_
  obtain ⟨p, -, hp⟩ := Regex.exists_place_of_mem hm
  obtain ⟨k, -, hk⟩ := exists_isWonBy hc h hp
  rw [hk.captureText hslot, Function.comp_apply, hk.map_captureText, length_slots hc,
    hk.matchedTerm?]
  by_cases hik : i = k
  · subst hik
    by_cases hempty : matchText text m = ""
    · simp [hempty, Option.filter]
    · simp [hempty, Option.filter]
  · simp [hik, Ne.symm hik]

/-- Each match is won by one term, and the rows of a term are those of its own matches. -/
structure RowsMatch (g : TermGroup) (c : CompiledGroup) : Prop where
  /-- One term's capture takes part in a match, and it is the whole match. -/
  slot : ∀ p m, c.regex.matchAt p = some m → ∃ i, i < g.terms.length ∧ c.IsWonBy m i
  /-- There is a row for each match with some text, which holds the text in the term's cell. -/
  findAll : ∀ i term, (g.terms.map Term.name)[i]? = some term → ∀ text,
    ∃ found, c.findIter term text = .ok found ∧
      let rows := ((found.getD []).filter (·.string ≠ "")).map
        fun m => wonRow g.terms.length i m.string
      c.findAll term text = .ok (if rows = [] then none else some rows)

theorem rowsMatch_of_allEnclosed (hc : ofGroup g wordBoundaries = .ok c)
    (h : allEnclosed c.flags wordBoundaries g.terms) : RowsMatch g c := by
  refine ⟨fun p m hm => exists_isWonBy hc h hm, fun i term hi text => ?_⟩
  have hlt : i < g.terms.length := by
    obtain ⟨hi, -⟩ := List.getElem?_eq_some_iff.mp hi
    rwa [List.length_map] at hi
  refine ⟨_, findIter_eq hc hi text, ?_⟩
  have hfound : (if c.termMatches i term text = [] then none
      else some (c.termMatches i term text)).getD [] = c.termMatches i term text := by
    split
    · rename_i hnil
      rw [hnil]
      rfl
    · rfl
  rw [findAll_eq hc hi, hfound, rows_eq hc h hlt term text]

/-- Comments, choices and groups of a term's own stay inside its alternative. -/
theorem rowsMatch_of_comment :
    let g : TermGroup := ⟨"g", [⟨"ab", "a b? # one"⟩, ⟨"c d", "(?-x:c d)|(?P<rest>d)"⟩],
      some (.bits 64)⟩
    ∃ c, ofGroup g true = .ok c ∧ allEnclosed c.flags true g.terms ∧ RowsMatch g c ∧
      (c.findAll "c d" "ab c d d").toOption = some (some [["", "c d"], ["", "d"]]) := by
  intro g
  have hrows : (ofGroup g true).toOption.map (fun c =>
      (allEnclosed c.flags true g.terms, (c.findAll "c d" "ab c d d").toOption)) =
      some (true, some (some [["", "c d"], ["", "d"]])) := by
    decide +kernel
  cases hc : ofGroup g true with
  | error e => rw [hc] at hrows; exact absurd hrows (by simp [Except.toOption])
  | ok c =>
    rw [hc] at hrows
    obtain ⟨henclosed, hfound⟩ := Prod.mk.inj (Option.some.inj hrows)
    exact ⟨c, rfl, henclosed, rowsMatch_of_allEnclosed hc henclosed, hfound⟩

/-- A comment that swallows the group of the next term leaves that term no capture of its own; the
whole match is then taken for it. -/
theorem row_without_match :
    ¬ ∀ (g : TermGroup) (wordBoundaries : Bool) (c : CompiledGroup),
      ofGroup g wordBoundaries = .ok c → RowsMatch g c := by
  intro h
  let g : TermGroup := ⟨"g", [⟨"a", "(?x)a#c"⟩, ⟨"b", "b\n"⟩], some (.bits 0)⟩
  have hrows : (ofGroup g false).toOption.map (fun c => (c.findAll "b" "a").toOption.join) =
      some (some [["a", "a"]]) := by
    decide +kernel
  cases hc : ofGroup g false with
  | error e => rw [hc] at hrows; exact absurd hrows (by simp [Except.toOption])
  | ok c =>
    rw [hc] at hrows
    have hrows : (c.findAll "b" "a").toOption.join = some [["a", "a"]] := Option.some.inj hrows
    obtain ⟨found, -, hfindAll⟩ := (h g false c hc).findAll 1 "b" rfl "a"
    rw [hfindAll] at hrows
    simp only [Except.toOption, Option.join_some] at hrows
    split at hrows
    · exact absurd hrows (by simp)
    · obtain ⟨m, -, hrow⟩ := List.mem_map.mp (Option.some.inj hrows ▸ List.mem_singleton.mpr rfl)
      -- Only the cell of the term `b` can hold text.
      have hcell : (wonRow 2 1 m.string)[0]? = some "a" := congrArg (·[0]?) hrow
      exact absurd hcell (by simp [wonRow])

end CompiledGroup
end Gazetteer
