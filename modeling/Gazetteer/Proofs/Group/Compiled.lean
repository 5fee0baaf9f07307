import Gazetteer.Isolation
import Gazetteer.Proofs.Group.Slots

/-! What a compiled group is made of.

The names of the terms, their symbols and the captures of their alternatives stand in the order of
declaration. No two terms share a symbol, so a name tells which term is meant
(`CompiledGroup.termIndex?_eq_some_iff`), and the capture that took part in a match names one of
the declared terms (`CompiledGroup.matchedTerm?_lt`). -/
namespace Gazetteer

namespace CompiledGroup

variable {g : TermGroup} {wordBoundaries : Bool} {c : CompiledGroup}

theorem eq_of_ofGroup (h : ofGroup g wordBoundaries = .ok c) :
    g.terms ≠ [] ∧ ∃ flags symbols regex, Flags.resolve g.flags = .ok flags ∧
      SymbolTable.ofNames (g.terms.map Term.name) = .ok symbols ∧
      Regex.ofPattern? flags.options (sourceOf flags wordBoundaries symbols.symbols g.terms) =
        some regex ∧
      c = {
        name := g.name
        source := sourceOf flags wordBoundaries symbols.symbols g.terms
        regex
        names := g.terms.map Term.name
        symbols
        slots := fillSlots symbols regex.groups
        flags } := by
  obtain ⟨flags, hflags, h⟩ := exists_of_bind_eq_ok h
  split at h
  · exact absurd h (by simp [throw, throwThe, MonadExceptOf.throw, bind, Except.bind])
  · rename_i hterms
    obtain ⟨symbols, hsymbols, h⟩ := exists_of_bind_eq_ok h
    dsimp only at h
    split at h
    · exact absurd h (by simp [throw, throwThe, MonadExceptOf.throw])
    · rename_i regex hregex
      exact ⟨by simpa using hterms, flags, symbols, regex, mapError_eq_ok_iff.mp hflags,
        mapError_eq_ok_iff.mp hsymbols, hregex, (Except.ok.inj h).symm⟩

theorem ofGroup_eq_ok (h : ofGroup g wordBoundaries = .ok c) :
    Flags.resolve g.flags = .ok c.flags ∧ g.terms ≠ [] ∧ c.name = g.name ∧
      SymbolTable.ofNames (g.terms.map Term.name) = .ok c.symbols ∧
      Regex.ofPattern? c.flags.options
        (sourceOf c.flags wordBoundaries c.symbols.symbols g.terms) = some c.regex := by
  obtain ⟨hterms, flags, symbols, regex, hflags, hsymbols, hregex, rfl⟩ := eq_of_ofGroup h
  exact ⟨hflags, hterms, rfl, hsymbols, hregex⟩

theorem source_eq (h : ofGroup g wordBoundaries = .ok c) :
    c.source = sourceOf c.flags wordBoundaries c.symbols.symbols g.terms := by
  obtain ⟨-, flags, symbols, regex, -, -, -, rfl⟩ := eq_of_ofGroup h
  rfl

theorem name_eq (hc : ofGroup g wordBoundaries = .ok c) : c.name = g.name := (ofGroup_eq_ok hc).2.2.1

theorem names_eq (hc : ofGroup g wordBoundaries = .ok c) : c.names = g.terms.map Term.name := by
  obtain ⟨-, flags, symbols, regex, -, -, -, rfl⟩ := eq_of_ofGroup hc
  rfl

theorem pairs (hc : ofGroup g wordBoundaries = .ok c) :
    c.symbols.Pairs (g.terms.map Term.name) :=
  SymbolTable.pairs_ofNames (ofGroup_eq_ok hc).2.2.2.1

/-- The symbols of terms. -/
def symbolsOf (terms : List Term) : List String := terms.map fun term => Symbol.ofName term.name

theorem symbols_of_ok {terms : List Term} {symbols : SymbolTable}
    (h : SymbolTable.ofNames (terms.map Term.name) = .ok symbols) :
    symbols.symbols = symbolsOf terms := by
  rw [SymbolTable.symbols_of_entries (SymbolTable.pairs_ofNames h).entries, List.map_map]
  rfl

theorem symbols_eq (hc : ofGroup g wordBoundaries = .ok c) :
    c.symbols.symbols = g.terms.map fun term => Symbol.ofName term.name :=
  symbols_of_ok (ofGroup_eq_ok hc).2.2.2.1

/-- Terms of a group that compiles have different names. -/
theorem nodup_names (hc : ofGroup g wordBoundaries = .ok c) : (g.terms.map Term.name).Nodup := by
  have hpairs := pairs hc
  rw [← SymbolTable.names_of_entries hpairs.entries]
  exact hpairs.inStep.byName.nodup

/-- The slots are the indices of the captures that the symbols name, and 0 where there is none. -/
theorem slots_eq_map_symbols (hc : ofGroup g wordBoundaries = .ok c) :
    c.slots = c.symbols.symbols.map fun symbol =>
      (c.regex.groups.findIdx? (· == some symbol)).getD 0 := by
  have hpairs := pairs hc
  obtain ⟨-, flags, symbols, regex, -, -, hregex, rfl⟩ := eq_of_ofGroup hc
  exact fillSlots_eq hpairs.inStep (Regex.nodup_captureNames hregex)

theorem length_slots (hc : ofGroup g wordBoundaries = .ok c) : c.slots.length = g.terms.length := by
  rw [slots_eq_map_symbols hc, symbols_eq hc, List.length_map, List.length_map]

/-- A term is found at the place where its name was declared. -/
theorem termIndex?_eq_some_iff (hc : ofGroup g wordBoundaries = .ok c) {term : String} {i : Nat} :
    c.termIndex? term = some i ↔ (g.terms.map Term.name)[i]? = some term :=
  (pairs hc).position term i

theorem termIndex?_eq_none_iff (hc : ofGroup g wordBoundaries = .ok c) {term : String} :
    c.termIndex? term = none ↔ term ∉ g.terms.map Term.name := by
  have hpairs := pairs hc
  rw [← SymbolTable.names_of_entries hpairs.entries]
  exact hpairs.inStep.byName.eq_none_iff

/-- A match is attributed to a declared term or to none. -/
theorem matchedTerm?_lt (hc : ofGroup g wordBoundaries = .ok c) {m : Regex.Match} {i : Nat}
    (h : c.matchedTerm? m = some i) : i < (g.terms.map Term.name).length := by
  obtain ⟨hi, -, -⟩ := List.findIdx?_eq_some_iff_getElem.mp h
  rwa [length_slots hc, ← List.length_map (f := Term.name)] at hi

end CompiledGroup
end Gazetteer
