import Gazetteer.Proofs.Group.Compiled
import Gazetteer.Proofs.Matching.Extent

/-! What is extracted from a text.

Each entity stands in the text where its span says, under the name of a declared term, and the
entities of a group come in the order of the text without overlap
(`CompiledGroup.foundInOrder`). Nothing is asked of the patterns: an entity is a match, and
matches stand one behind the other. -/
namespace Gazetteer

open Regex (Extent)

namespace CompiledGroup

variable {g : TermGroup} {wordBoundaries : Bool} {c : CompiledGroup} {text : String}

/-- The entity of a match has the name of the term that won it. -/
theorem entityOf?_eq_some_iff {m : Regex.Match} {e : NamedEntity} :
    c.entityOf? text m = some e ↔
      ∃ i, c.matchedTerm? m = some i ∧ c.names[i]? = some e.name ∧ e.entity = c.name ∧
        e.string = matchText text m ∧ e.span = ⟨m.extent.start, m.extent.stop⟩ := by
  unfold entityOf?
  constructor
  · intro h
    obtain ⟨i, hi, h⟩ := Option.bind_eq_some_iff.mp h
    obtain ⟨name, hname, h⟩ := Option.bind_eq_some_iff.mp h
    obtain rfl := Option.some.inj h
    exact ⟨i, hi, hname, rfl, rfl, rfl⟩
  · rintro ⟨i, hi, hname, hentity, hstring, hspan⟩
    obtain ⟨name, entity, string, span⟩ := e
    obtain rfl : entity = c.name := hentity
    obtain rfl : string = matchText text m := hstring
    obtain rfl : span = ⟨m.extent.start, m.extent.stop⟩ := hspan
    rw [hi]
    show (c.names[i]?).bind _ = _
    rw [show c.names[i]? = some name from hname]
    rfl

/-- A match lies between two places of the text, with its text between them. -/
theorem parts_of_mem_matchesIn {m : Regex.Match} (h : m ∈ c.regex.matchesIn text) :
    Text.Parts text.toList m.extent.start m.extent.stop (matchText text m).toList := by
  obtain ⟨w, hw⟩ := Regex.exists_parts_of_mem h
  unfold matchText
  rw [hw.slice_eq, String.toList_ofList]
  exact hw

/-- An entity that the group `g` has found in a text. -/
structure IsFound (g : TermGroup) (text : String) (e : NamedEntity) : Prop where
  within : e.span.start ≤ e.span.stop ∧ e.span.stop ≤ text.utf8ByteSize
  /-- The span starts and ends between characters, and covers the string that was found. -/
  split : ∃ before after, text.toList = before ++ e.string.toList ++ after ∧
    e.span.start = Text.byteLength before ∧
    e.span.stop = Text.byteLength (before ++ e.string.toList)
  slice : e.span.slice? text = some e.string
  /-- In characters the span is as long as the string. -/
  charSpan : ∃ n, e.span.toCharSpan? text = some ⟨n, n + e.string.toList.length⟩
  entity : e.entity = g.name
  name : e.name ∈ g.terms.map Term.name

theorem isFound_of_mem (hc : ofGroup g wordBoundaries = .ok c) {e : NamedEntity}
    (h : e ∈ c.extract text) : IsFound g text e := by
  obtain ⟨m, hm, he⟩ := List.mem_filterMap.mp h
  obtain ⟨i, -, hname, hentity, hstring, hspan⟩ := entityOf?_eq_some_iff.mp he
  have hparts := parts_of_mem_matchesIn hm
  rw [← hstring] at hparts
  obtain ⟨l, r, htext, hfirst, hlast⟩ := hparts.exists_charIndex?
  refine ⟨?_, ?_, ?_, ⟨l.length, ?_⟩, hentity.trans (name_eq hc), ?_⟩
  · rw [hspan, ← Text.byteLength_toList]
    exact ⟨hparts.le, hparts.le_byteLength⟩
  · obtain ⟨l, r, htext, hstart⟩ := hparts.split
    rw [hspan]
    refine ⟨l, r, htext, hstart, ?_⟩
    rw [Text.byteLength_append, ← hstart]
    exact hparts.length
  · unfold Span.slice?
    rw [hspan, hparts.slice?_eq, Option.map_some, String.ofList_toList]
  · unfold Span.toCharSpan?
    rw [hspan]
    simp only [hfirst, hlast, Option.bind_eq_bind, Option.bind_some]
    rw [if_pos hparts.le]
  · rw [← names_eq hc]
    exact List.mem_of_getElem? hname

/-- The entities of a group do not overlap, and no two of them start at the same place. -/
theorem pairwise_extract (c : CompiledGroup) (text : String) :
    (c.extract text).Pairwise fun a b =>
      a.span.stop ≤ b.span.start ∧ a.span.start < b.span.start := by
  unfold extract
  rw [List.pairwise_filterMap]
  refine (c.regex.pairwise_matchesIn text).imp fun {m m'} hm a ha b hb => ?_
  obtain ⟨-, -, -, -, -, hspan⟩ := entityOf?_eq_some_iff.mp ha
  obtain ⟨-, -, -, -, -, hspan'⟩ := entityOf?_eq_some_iff.mp hb
  rw [hspan, hspan']
  exact hm

/-- The entities of a group stand in the text one behind the other, each where its span says. -/
theorem foundInOrder (hc : ofGroup g wordBoundaries = .ok c) (text : String) :
    (∀ e ∈ c.extract text, IsFound g text e) ∧
      (c.extract text).Pairwise fun a b =>
        a.span.stop ≤ b.span.start ∧ a.span.start < b.span.start :=
  ⟨fun _ he => isFound_of_mem hc he, pairwise_extract c text⟩

/-- Behind a match there is no empty match at its end, and a character is left out as a whole. -/
theorem foundInOrder_of_empty_matches :
    let g : TermGroup := ⟨"g", [⟨"é", "é*"⟩, ⟨"n", "n"⟩], some (.bits 0)⟩
    ∃ c, ofGroup g false = .ok c ∧ (c.extract "énéx").map (·.span) = [⟨0, 2⟩, ⟨3, 5⟩, ⟨6, 6⟩] ∧
      ∀ e ∈ c.extract "énéx", IsFound g "énéx" e := by
  intro g
  have hspans : (ofGroup g false).toOption.map (fun c => (c.extract "énéx").map (·.span)) =
      some [⟨0, 2⟩, ⟨3, 5⟩, ⟨6, 6⟩] := by
    decide +kernel
  cases hc : ofGroup g false with
  | error e => rw [hc] at hspans; exact absurd hspans (by simp [Except.toOption])
  | ok c =>
    rw [hc] at hspans
    exact ⟨c, rfl, Option.some.inj hspans, (foundInOrder hc "énéx").1⟩

end CompiledGroup
end Gazetteer
