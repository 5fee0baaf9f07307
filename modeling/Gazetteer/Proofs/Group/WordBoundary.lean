import Gazetteer.Proofs.Group.Priority
import Gazetteer.Proofs.Matching.Between
import Gazetteer.Proofs.Outline.Framing

/-! Whole words.

Anchors around each alternative of a pattern mean what anchors around the whole pattern mean
(`Regex.matchAt_bounded`), as long as the scan that places them agrees with the reader and the
pattern leaves their flags alone. Then whatever a group finds starts and ends at a word boundary
(`CompiledGroup.wholeWords_of_boundable`). -/
namespace Gazetteer

open Pattern (Anchor bounded framed)
open Regex (Ast Cursor Draft Look Mode Node anchorAst)

namespace Pattern.Anchor

/-- The condition that an anchor stands for. -/
def look : Anchor → Look
  | .unicode => .boundary true
  | .ascii => .boundary false

end Pattern.Anchor

namespace Regex

/-! ### Nodes -/

namespace Node

variable {m m' : Mode} {anchor : Anchor} {items : List Ast} {n : Node}

theorem ofAst_anchor (h : anchor = .unicode → m.unicode) :
    ofAst m (anchorAst anchor) = some (.look anchor.look, m) := by
  cases anchor with
  | unicode =>
    show some (Node.look (.boundary m.unicode), m) = _
    rw [h rfl]
    rfl
  | ascii => rfl

/-- An alternative between two anchors matches what it matches alone, between two conditions. -/
theorem ofAst_bounds (hm : anchor = .unicode → m.unicode)
    (hitems : anchor = .unicode → (Ast.ofItems items).unicodeAfter true)
    (h : ofAst m (.ofItems items) = some (n, m')) :
    (anchor = .unicode → m'.unicode) ∧
      ∃ n', ofAst m (Draft.bounds (anchorAst anchor) items) = some (n', m') ∧
        Same n' (between anchor.look n) ∧ n'.captures = n.captures := by
  have hm' : anchor = .unicode → m'.unicode := by
    intro hunicode
    rw [unicode_ofAst h, hm hunicode]
    exact hitems hunicode
  obtain ⟨n', hn', hsplits⟩ := exists_splits_look anchor.look h
  refine ⟨hm', .cat n' (.look anchor.look), ?_, hsplits.same.cat (.refl _), ?_⟩
  · have hconcat : Draft.bounds (anchorAst anchor) items =
        .concat (anchorAst anchor :: (items ++ [anchorAst anchor])) := by
      cases items <;> rfl
    rw [hconcat]
    show (ofAst m (anchorAst anchor)).bind _ = _
    rw [ofAst_anchor hm, Option.bind_some]
    show ofItemsAfter (.look anchor.look) m (items ++ [anchorAst anchor]) = _
    rw [ofItemsAfter_append, hn', Option.bind_some]
    show (ofAst m' (anchorAst anchor)).bind _ = _
    rw [ofAst_anchor hm']
    rfl
  · show n'.captures ++ [] = _
    rw [hsplits.captures, List.append_nil]
    rfl

/-- Anchors around every alternative are conditions around the choice. -/
theorem ofBranches_bounds {alternatives : List (List Ast)} (hne : alternatives ≠ [])
    (hm : anchor = .unicode → m.unicode)
    (halternatives : anchor = .unicode →
      ∀ items ∈ alternatives, (Ast.ofItems items).unicodeAfter true)
    (h : ofBranches m (alternatives.map .ofItems) = some (n, m')) :
    ∃ n', ofBranches m (alternatives.map (Draft.bounds (anchorAst anchor))) = some (n', m') ∧
      Same n' (between anchor.look n) ∧ n'.captures = n.captures := by
  induction alternatives generalizing m n with
  | nil => exact absurd rfl hne
  | cons items alternatives ih =>
    have hitems : anchor = .unicode → (Ast.ofItems items).unicodeAfter true := fun hunicode =>
      halternatives hunicode items (List.mem_cons_self ..)
    cases alternatives with
    | nil => exact (ofAst_bounds hm hitems h).2
    | cons items' alternatives =>
      obtain ⟨⟨first, m₁⟩, hfirst, hrest⟩ := Option.bind_eq_some_iff.1 h
      obtain ⟨⟨second, m₂⟩, hsecond, heq⟩ := Option.bind_eq_some_iff.1 hrest
      obtain ⟨rfl, rfl⟩ := Prod.mk.inj (Option.some.inj heq)
      obtain ⟨hm₁, first', hfirst', hsame, hcaptures⟩ := ofAst_bounds hm hitems hfirst
      obtain ⟨second', hsecond', hsame', hcaptures'⟩ := ih (by simp) hm₁
        (fun hunicode items' hitems' => halternatives hunicode items'
          (List.mem_cons_of_mem items hitems')) hsecond
      refine ⟨.alt first' second', ?_, ?_, congrArg₂ (· ++ ·) hcaptures hcaptures'⟩
      · show (ofAst m (Draft.bounds (anchorAst anchor) items)).bind _ = _
        rw [hfirst', Option.bind_some]
        show (ofBranches m₁ ((items' :: alternatives).map _)).bind _ = _
        rw [hsecond']
        rfl
      · exact (hsame.alt hsame').trans (between_alt _ _ _).symm

end Node

/-! ### Patterns -/

/-- The anchors of the pattern can stand around its alternatives: it is accepted, alone and between
anchors, the scan that finds its separators agrees with the reader, and the Unicode flag is in force
at both ends of every alternative if the anchor needs it. -/
structure Boundable (o : Options) (anchor : Anchor) (pattern : List Char) : Prop where
  accepted : (ofPattern? o (.ofList pattern)).isSome
  framed : (ofPattern? o (.ofList (framed anchor o.verbose pattern))).isSome
  agrees : (Draft.start o.verbose).agrees o.verbose pattern
  unicode : anchor = .unicode →
    (Ast.read o.verbose (.ofList pattern)).all Ast.keepsUnicode

theorem ofAst_framed {o : Options} {anchor : Anchor} {a : Ast} {n : Node} {m' : Mode}
    (h : Node.ofAst o.mode (.concat [anchorAst anchor, .group (.plain []) a, anchorAst anchor]) =
      some (n, m')) :
    ∃ inner m₁, Node.ofAst o.mode a = some (inner, m₁) ∧ n = .between anchor.look inner := by
  have hanchor : Node.ofAst o.mode (anchorAst anchor) = some (.look anchor.look, o.mode) :=
    Node.ofAst_anchor fun _ => rfl
  obtain ⟨⟨first, m₁⟩, hfirst, hrest⟩ := Option.bind_eq_some_iff.1 h
  obtain ⟨rfl, rfl⟩ := Prod.mk.inj (Option.some.inj (hanchor.symm.trans hfirst))
  obtain ⟨⟨second, m₂⟩, hsecond, hrest⟩ := Option.bind_eq_some_iff.1 hrest
  obtain ⟨⟨inner, m₃⟩, hinner, heq⟩ := Option.map_eq_some_iff.1 hsecond
  obtain ⟨rfl, rfl⟩ := Prod.mk.inj heq
  obtain ⟨⟨third, m₄⟩, hthird, hrest⟩ := Option.bind_eq_some_iff.1 hrest
  obtain ⟨rfl, rfl⟩ := Prod.mk.inj (Option.some.inj (hanchor.symm.trans hthird))
  obtain ⟨rfl, -⟩ := Prod.mk.inj (Option.some.inj hrest)
  exact ⟨inner, m₃, hinner, rfl⟩

theorem groups_anchorAst (anchor : Anchor) : (anchorAst anchor).groups = [] := by
  cases anchor <;> rfl

/-- Anchors add no groups. -/
theorem groups_bounds (anchor : Anchor) (items : List Ast) :
    (Draft.bounds (anchorAst anchor) items).groups = (Ast.ofItems items).groups := by
  unfold Draft.bounds
  rw [Ast.groups_ofItems, Ast.groups_ofItems, List.flatMap_append, List.flatMap_cons,
    List.flatMap_singleton, groups_anchorAst, List.nil_append, List.append_nil]

theorem groups_framed (anchor : Anchor) (alternatives : List (List Ast)) :
    (Ast.ofBranches (alternatives.map (Draft.bounds (anchorAst anchor)))).groups =
      (Ast.concat [anchorAst anchor, .group (.plain []) (.ofBranches (alternatives.map .ofItems)),
        anchorAst anchor]).groups := by
  show _ = (anchorAst anchor).groups ++ ((Ast.ofBranches (alternatives.map .ofItems)).groups ++
    ((anchorAst anchor).groups ++ []))
  rw [groups_anchorAst, Ast.groups_ofBranches, Ast.groups_ofBranches, List.flatMap_map,
    List.flatMap_map, List.nil_append, List.append_nil, List.append_nil]
  exact List.flatMap_congr fun items _ => groups_bounds anchor items

/-- The bounded pattern is accepted and cannot be told from the framed one. -/
theorem Boundable.exists_same {o : Options} {anchor : Anchor} {pattern : List Char}
    (h : Boundable o anchor pattern) :
    ∃ r whole n, ofPattern? o (.ofList (bounded anchor o.verbose pattern)) = some r ∧
      ofPattern? o (.ofList (Pattern.framed anchor o.verbose pattern)) = some whole ∧
      whole.node = .between anchor.look n ∧ r.node.Same whole.node ∧ r.groups = whole.groups := by
  obtain ⟨alone, halone⟩ := Option.isSome_iff_exists.mp h.accepted
  obtain ⟨whole, hwhole⟩ := Option.isSome_iff_exists.mp h.framed
  obtain ⟨a, -, hread, -, -⟩ := ofPattern?_eq_some halone
  obtain ⟨f, m', hframed, hnode, hgroups⟩ := ofPattern?_eq_some hwhole
  obtain ⟨alternatives, hne, rfl, hbounded, hkeeps⟩ :=
    Pattern.exists_alternatives hread hframed h.agrees
  obtain ⟨inner, m₁, hinner, hwholeNode⟩ := ofAst_framed hnode
  rw [Node.ofAst_ofBranches _ _ (by simpa using hne)] at hinner
  have hunicode : anchor = .unicode →
      ∀ items ∈ alternatives, (Ast.ofItems items).unicodeAfter true := by
    intro hanchor
    have hall := h.unicode hanchor
    rw [hread] at hall
    exact hkeeps hall
  obtain ⟨n, hn, hsame, hcaptures⟩ := Node.ofBranches_bounds hne (fun _ => rfl) hunicode hinner
  have hregex : ofPattern? o (.ofList (bounded anchor o.verbose pattern)) = some
      ⟨n, groupList n (Ast.ofBranches
        (alternatives.map (Draft.bounds (anchorAst anchor)))).groupNames⟩ := by
    unfold ofPattern?
    rw [hbounded, Option.bind_eq_bind, Option.bind_some,
      Node.ofAst_ofBranches _ _ (by simpa using hne), hn]
    rfl
  refine ⟨_, whole, inner, hregex, hwhole, hwholeNode, ?_, ?_⟩
  · rw [hwholeNode]
    exact hsame
  · rw [hgroups, Ast.groupNames_eq, Ast.groupNames_eq, groups_framed]
    have hpresent : whole.node.captures = n.captures := by
      rw [hwholeNode, hcaptures]
      show ([] ++ inner.captures) ++ [] = _
      rw [List.nil_append, List.append_nil]
    unfold groupList
    rw [hpresent]

/-- At every place the bounded pattern has the match of the framed one. -/
theorem Boundable.exists_matchAt_eq {o : Options} {anchor : Anchor} {pattern : List Char}
    (h : Boundable o anchor pattern) :
    ∃ r whole, ofPattern? o (.ofList (bounded anchor o.verbose pattern)) = some r ∧
      ofPattern? o (.ofList (Pattern.framed anchor o.verbose pattern)) = some whole ∧
      ∀ p, r.matchAt p = whole.matchAt p := by
  obtain ⟨r, whole, -, hr, hwhole, -, hsame, hgroups⟩ := h.exists_same
  refine ⟨r, whole, hr, hwhole, fun p => ?_⟩
  rw [matchAt_eq, matchAt_eq, hsame p]
  unfold matchOf
  rw [hgroups]

/-- A match of the bounded pattern starts and ends where its anchor holds. -/
theorem Boundable.holds_of_matchAt {o : Options} {anchor : Anchor} {pattern : List Char} {r : Regex}
    (h : Boundable o anchor pattern)
    (hr : ofPattern? o (.ofList (bounded anchor o.verbose pattern)) = some r) {p : Cursor} {m : Match}
    (hm : r.matchAt p = some m) :
    ∃ q, p.Later q ∧ m.extent = ⟨p.offset, q.offset⟩ ∧ anchor.look.holds p ∧
      anchor.look.holds q := by
  obtain ⟨r', whole, n, hr', -, hnode, hsame, -⟩ := h.exists_same
  obtain rfl : r' = r := Option.some.inj (hr'.symm.trans hr)
  rw [matchAt_eq] at hm
  obtain ⟨t, ht, rfl⟩ := Option.map_eq_some_iff.mp hm
  have hmem := List.mem_of_mem_head? ht
  refine ⟨t.place, (Node.leads_of_mem_outcomes hmem).1, rfl, ?_⟩
  rw [hsame p, hnode] at hmem
  exact Node.holds_of_mem_between hmem

end Regex

/-! ### Groups -/

namespace Flags

/-- The anchor for whole words under the flags. -/
def anchor (f : Flags) : Anchor := if f.ascii then .ascii else .unicode

end Flags

namespace CompiledGroup

/-- A term's pattern before anchors are placed. -/
def narrowed (flags : Flags) (pattern : String) : List Char :=
  if flags.ascii then Pattern.asciiOnly flags.verbose pattern.toList else pattern.toList

/-- The entity starts and ends at a word boundary of the text. -/
def IsWhole (flags : Flags) (text : String) (e : NamedEntity) : Prop :=
  ∃ p q, (Cursor.ofText text).Later p ∧ p.Later q ∧ e.span = ⟨p.offset, q.offset⟩ ∧
    flags.anchor.look.holds p ∧ flags.anchor.look.holds q

variable {g : TermGroup} {c : CompiledGroup}

/-- What a group finds starts and ends at a word boundary. -/
theorem isWhole_of_mem_extract (hc : ofGroup g true = .ok c)
    (hterms : ∀ term ∈ g.terms,
      Regex.Boundable c.flags.options c.flags.anchor (narrowed c.flags term.pattern))
    (hcloses : allClose c.flags true g.terms) {text : String} {e : NamedEntity}
    (he : e ∈ c.extract text) : IsWhole c.flags text e := by
  have haccepted : ∀ term ∈ g.terms, (Regex.ofPattern? c.flags.options
      (.ofList (termBody c.flags true term.pattern))).isSome := by
    intro term hterm
    obtain ⟨r, -, -, hr, -⟩ := (hterms term hterm).exists_same
    exact Option.isSome_iff_exists.mpr ⟨r, hr⟩
  obtain ⟨bodies, hbodies⟩ := AreBodies.exists_of_accepted haccepted
  obtain ⟨m, hm, hentity⟩ := List.mem_filterMap.mp he
  have hspan : e.span = ⟨m.extent.start, m.extent.stop⟩ := by
    obtain ⟨i, -, hentity⟩ := Option.bind_eq_some_iff.1 hentity
    obtain ⟨name, -, hentity⟩ := Option.bind_eq_some_iff.1 hentity
    rw [← Option.some.inj hentity]
  rw [Regex.matchesIn_eq_scan] at hm
  obtain ⟨p, hp, hmatch⟩ := exists_of_mem_scanFrom hm
  have hwinner := matchAt_eq_winner hc hbodies hcloses p
  rw [hmatch, Option.map_some] at hwinner
  obtain ⟨⟨i, x⟩, hw, heq⟩ := Option.map_eq_some_iff.mp hwinner.symm
  obtain ⟨⟨body, own, hbody, hown, hx⟩, -⟩ := Regex.winner?_eq_some_iff.mp hw
  have hextent : own.extent = m.extent := hx.trans (Prod.mk.inj heq).2
  obtain ⟨hi, rfl⟩ := List.getElem?_eq_some_iff.mp hbody
  have hterm := List.Forall₂.get hbodies (by rw [hbodies.length_eq]; exact hi) hi
  obtain ⟨q, hq, hplaces, hfirst, hlast⟩ :=
    (hterms _ (List.getElem_mem _)).holds_of_matchAt hterm hown
  refine ⟨p, q, hp, hq, ?_, hfirst, hlast⟩
  rw [hspan, ← hextent, hplaces]

/-- Anchors around every alternative mean what anchors around the whole pattern mean, and what a
group finds is whole words, whichever alternative of a term matched. -/
theorem wholeWords_of_boundable (o : Regex.Options) (anchor : Anchor) :
    (∀ pattern, Regex.Boundable o anchor pattern →
      ∃ r whole, Regex.ofPattern? o (.ofList (bounded anchor o.verbose pattern)) = some r ∧
        Regex.ofPattern? o (.ofList (framed anchor o.verbose pattern)) = some whole ∧
        ∀ p, r.matchAt p = whole.matchAt p) ∧
    ∀ (g : TermGroup) (c : CompiledGroup), ofGroup g true = .ok c →
      c.flags.options = o → c.flags.anchor = anchor →
      (∀ term ∈ g.terms, Regex.Boundable o anchor (narrowed c.flags term.pattern)) →
      allClose c.flags true g.terms → ∀ text, ∀ e ∈ c.extract text, IsWhole c.flags text e := by
  refine ⟨fun pattern h => h.exists_matchAt_eq, ?_⟩
  rintro g c hc rfl rfl hterms hcloses text e he
  exact isWhole_of_mem_extract hc hterms hcloses he

/-- A class, a comment and a group hide their bars; flags that a pattern sets for a group of its own
end with it. -/
theorem wholeWords_behind_class :
    let o : Regex.Options := ⟨false, false, false, true⟩
    let pattern := "[^]|] | (b|c) # |".toList
    let g : TermGroup := ⟨"g", [⟨"ab", "(?-u:a)|(?P<rest>b|c)d"⟩, ⟨"b", "b[|]"⟩], some (.bits 0)⟩
    (∃ r whole, Regex.ofPattern? o (.ofList (bounded .unicode o.verbose pattern)) = some r ∧
      Regex.ofPattern? o (.ofList (framed .unicode o.verbose pattern)) = some whole ∧
      ∀ p, r.matchAt p = whole.matchAt p) ∧
    ∃ c, ofGroup g true = .ok c ∧ ∀ text, ∀ e ∈ c.extract text, IsWhole c.flags text e := by
  intro o pattern g
  have hpattern : Regex.Boundable o .unicode pattern :=
    ⟨by decide +kernel, by decide +kernel, by decide +kernel, fun _ => by decide +kernel⟩
  refine ⟨(wholeWords_of_boundable o .unicode).1 pattern hpattern, ?_⟩
  have hok : (ofGroup g true).isOk := by decide +kernel
  cases hc : ofGroup g true with
  | error e => rw [hc] at hok; exact absurd hok (by simp [Except.isOk, Except.toBool])
  | ok c =>
    have hflags : Flags.none = c.flags := Except.ok.inj (ofGroup_eq_ok hc).1
    have hterms : ∀ term ∈ g.terms,
        Regex.Boundable Flags.none.options Flags.none.anchor (narrowed Flags.none term.pattern) := by
      intro term hterm
      rcases List.mem_cons.mp hterm with rfl | hterm
      · exact ⟨by decide +kernel, by decide +kernel, by decide +kernel, fun _ => by decide +kernel⟩
      · rw [List.mem_singleton.mp hterm]
        exact ⟨by decide +kernel, by decide +kernel, by decide +kernel, fun _ => by decide +kernel⟩
    have hcloses : allClose Flags.none true g.terms := by decide +kernel
    rw [hflags] at hterms hcloses
    exact ⟨c, rfl, (wholeWords_of_boundable _ _).2 g c hc rfl rfl hterms hcloses⟩

/-- Behind a class with a second caret a separator is missed, and the alternatives around it get one
anchor each: the first letter of a longer word is found. -/
theorem part_of_word_behind_carets :
    (¬ ∀ (o : Regex.Options) (anchor : Anchor) (pattern : List Char),
      (Regex.ofPattern? o (.ofList pattern)).isSome →
        ∃ r whole, Regex.ofPattern? o (.ofList (bounded anchor o.verbose pattern)) = some r ∧
          Regex.ofPattern? o (.ofList (framed anchor o.verbose pattern)) = some whole ∧
          ∀ p, r.matchAt p = whole.matchAt p) ∧
    ¬ ∀ (g : TermGroup) (c : CompiledGroup), ofGroup g true = .ok c →
      (∀ term ∈ g.terms, (Regex.ofPattern? c.flags.options
        (.ofList (narrowed c.flags term.pattern))).isSome) →
      ∀ text, ∀ e ∈ c.extract text, IsWhole c.flags text e := by
  constructor
  · intro h
    let o : Regex.Options := ⟨false, false, false, false⟩
    obtain ⟨r, whole, hr, hwhole, hsame⟩ := h o .unicode "[^^]|a".toList (by decide +kernel)
    have hbounded : (Regex.ofPattern? o (.ofList (bounded .unicode false "[^^]|a".toList))).map
        (fun r => (r.matchAt (.ofText "xay")).isSome) = some true := by decide +kernel
    have hframed : (Regex.ofPattern? o (.ofList (framed .unicode false "[^^]|a".toList))).map
        (fun r => (r.matchAt (.ofText "xay")).isSome) = some false := by decide +kernel
    rw [hr] at hbounded
    rw [hwhole] at hframed
    have := (Option.some.inj hbounded).symm.trans
      ((congrArg Option.isSome (hsame _)).trans (Option.some.inj hframed))
    exact absurd this (by simp)
  · intro h
    let g : TermGroup := ⟨"g", [⟨"a", "[^^]|a"⟩], some (.bits 0)⟩
    have hspans : (ofGroup g true).toOption.map (fun c => (c.extract "xay").map NamedEntity.span) =
        some [⟨0, 1⟩] := by decide +kernel
    obtain ⟨c, hc, hspans⟩ := Option.map_eq_some_iff.mp hspans
    have hc : ofGroup g true = .ok c := by
      cases hg : ofGroup g true with
      | error e => rw [hg] at hc; exact absurd hc (by simp [Except.toOption])
      | ok c' => rw [hg] at hc; exact congrArg _ (Option.some.inj hc)
    have hflags : Flags.none = c.flags := Except.ok.inj (ofGroup_eq_ok hc).1
    obtain ⟨e, he, hspan⟩ := List.mem_map.mp (hspans ▸ List.mem_singleton_self (⟨0, 1⟩ : Span))
    have haccepted : ∀ term ∈ g.terms, (Regex.ofPattern? Flags.none.options
        (.ofList (narrowed Flags.none term.pattern))).isSome := by decide +kernel
    rw [hflags] at haccepted
    obtain ⟨p, q, hp, hq, hplaces, -, hlast⟩ := h g c hc haccepted "xay" e he
    rw [hspan] at hplaces
    have hplace : (Cursor.ofText "xay").Later ⟨1, some 'x', ['a', 'y']⟩ := .step rfl (.refl _)
    obtain rfl := (hp.trans hq).ext hplace (Span.mk.inj hplaces).2.symm
    rw [← hflags] at hlast
    exact absurd hlast (by decide +kernel)

end CompiledGroup
end Gazetteer
