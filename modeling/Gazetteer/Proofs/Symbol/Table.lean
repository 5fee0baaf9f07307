import Mathlib.Data.List.Nodup
import Std.Data.TreeMap.Lemmas
import Gazetteer.Symbol
import Gazetteer.Proofs.Result

/-! What a table of symbols tells.

The entries of a table and its two maps stay in step (`SymbolTable.InStep`): one insertion keeps them
so, and all insertions do by it. So the table leads from each name to its symbol and place and from
each symbol back to its name (`SymbolTable.Pairs`). Names are taken one after another, so where two
names share a symbol the first of them that finds its symbol taken is reported
(`SymbolCollision.IsFirst`); one of the two always happens (`SymbolTable.pairsOrCollides`). -/
namespace Gazetteer

/-! ### Symbols -/

namespace Symbol

theorem isSymbolChar_of_mem_ofName {name : String} {c : Char} (h : c ∈ (ofName name).toList) :
    isSymbolChar c := by
  have hmap : ∀ c ∈ name.toList.map (fun c => if isSymbolChar c then c else '_'),
      isSymbolChar c := by
    intro c hc
    obtain ⟨d, -, rfl⟩ := List.mem_map.mp hc
    split
    · assumption
    · rfl
  unfold ofName at h
  simp only at h
  split at h
  · obtain rfl : c = '_' := by simpa using h
    rfl
  · split at h
    · rw [String.toList_ofList] at h
      rcases List.mem_cons.mp h with rfl | h
      · rfl
      · exact hmap c h
    · rw [String.toList_ofList] at h
      exact hmap c h

/-- A symbol does not end the name of a group early. -/
theorem ne_of_mem_ofName {name : String} {c : Char} (h : c ∈ (ofName name).toList) : c ≠ '>' := by
  rintro rfl
  exact absurd (isSymbolChar_of_mem_ofName h) (by decide)

/-- Whether a text can name a group: ASCII letters, digits and `_`, at least one, and no digit in
front. -/
def IsSymbol (s : String) : Prop :=
  ∃ c cs, s.toList = c :: cs ∧ c.isDigit = false ∧ ∀ d ∈ c :: cs, d.isAlphanum ∨ d = '_'

theorem isSymbolChar_iff {c : Char} : isSymbolChar c ↔ c.isAlphanum ∨ c = '_' := by
  simp [isSymbolChar]

theorem isSymbol_ofName (name : String) : IsSymbol (ofName name) := by
  have hchars : ∀ d ∈ (ofName name).toList, isSymbolChar d := fun d => isSymbolChar_of_mem_ofName
  cases htext : (ofName name).toList with
  | nil =>
    refine absurd htext ?_
    unfold ofName
    dsimp only
    split
    · decide
    · split <;> simp_all
  | cons c cs =>
    rw [htext] at hchars
    refine ⟨c, cs, htext, ?_, fun d hd => isSymbolChar_iff.mp (hchars d hd)⟩
    unfold ofName at htext
    dsimp only at htext
    split at htext
    · obtain ⟨rfl, -⟩ := List.cons.inj htext
      rfl
    · rename_i hmap
      split at htext
      · rw [String.toList_ofList] at htext
        obtain ⟨rfl, -⟩ := List.cons.inj htext
        rfl
      · rename_i hdigit
        rw [String.toList_ofList, hmap] at htext
        obtain ⟨rfl, -⟩ := List.cons.inj htext
        simpa using hdigit

theorem ofName_of_isSymbol {s : String} (h : IsSymbol s) : ofName s = s := by
  obtain ⟨c, cs, htext, hdigit, hchars⟩ := h
  have hmap : s.toList.map (fun d => if isSymbolChar d then d else '_') = c :: cs := by
    rw [htext]
    exact (List.map_congr_left fun d hd => if_pos (isSymbolChar_iff.mpr (hchars d hd))).trans
      (List.map_id' _)
  unfold ofName
  simp only [hmap, hdigit, Bool.false_eq_true, if_false]
  rw [← htext, String.ofList_toList]

/-- A name is its own symbol exactly if it can name a group. -/
theorem ofName_eq_self_iff {name : String} : ofName name = name ↔ IsSymbol name :=
  ⟨fun h => h ▸ isSymbol_ofName name, ofName_of_isSymbol⟩

end Symbol

/-! ### Containers -/

/-- The map leads from each text of the list to its place, and from no other text anywhere. -/
def Indexes (m : Std.TreeMap String Nat) (l : List String) : Prop :=
  ∀ (x : String) (i : Nat), m[x]? = some i ↔ l[i]? = some x

namespace Indexes

variable {m : Std.TreeMap String Nat} {l : List String} {x : String}

theorem empty : Indexes ∅ [] := by
  intro x i
  simp

/-- A text that is indexed has one place. -/
theorem nodup (h : Indexes m l) : l.Nodup := by
  rw [List.nodup_iff_getElem?_ne_getElem?]
  intro i j hij hj heq
  have hi := Nat.lt_trans hij hj
  rw [List.getElem?_eq_getElem hi, List.getElem?_eq_getElem hj] at heq
  have hfirst := (h l[i] i).mpr (List.getElem?_eq_getElem hi)
  have hsecond := (h l[i] j).mpr ((List.getElem?_eq_getElem hj).trans heq.symm)
  exact Nat.ne_of_lt hij (Option.some.inj (hfirst.symm.trans hsecond))

theorem eq_none_iff (h : Indexes m l) : m[x]? = none ↔ x ∉ l := by
  rw [Option.eq_none_iff_forall_ne_some, List.mem_iff_getElem?, not_exists]
  exact forall_congr' fun i => not_congr (h x i)

/-- Entries that are indexed by one of their parts are looked up by it. -/
theorem lookup_eq_some_iff {entries : List (String × String)} {key value : String × String → String}
    {y : String} (h : Indexes m (entries.map key)) :
    (m[x]?.bind fun i => entries[i]?.map value) = some y ↔
      ∃ entry ∈ entries, key entry = x ∧ value entry = y := by
  rw [Option.bind_eq_some_iff]
  constructor
  · rintro ⟨i, hi, hvalue⟩
    obtain ⟨entry, hentry, rfl⟩ := Option.map_eq_some_iff.mp hvalue
    rw [h x i, List.getElem?_map, hentry] at hi
    exact ⟨entry, List.mem_of_getElem? hentry, Option.some.inj hi, rfl⟩
  · rintro ⟨entry, hmem, rfl, rfl⟩
    obtain ⟨i, hentry⟩ := List.mem_iff_getElem?.mp hmem
    refine ⟨i, (h (key entry) i).mpr ?_, congrArg (Option.map value) hentry⟩
    rw [List.getElem?_map, hentry, Option.map_some]

/-- A text that is new goes to the end of both. -/
theorem insert (h : Indexes m l) (hx : x ∉ l) : Indexes (m.insert x l.length) (l ++ [x]) := by
  intro y i
  rw [Std.TreeMap.getElem?_insert, List.getElem?_append]
  by_cases hxy : x = y
  · subst hxy
    rw [if_pos (by simp)]
    split
    · rename_i hi
      refine ⟨fun heq => absurd (Option.some.inj heq) (Nat.ne_of_gt hi), fun heq => ?_⟩
      exact absurd (List.mem_of_getElem? heq) hx
    · rename_i hi
      rw [List.getElem?_singleton]
      split <;> simp <;> omega
  · rw [if_neg (by simpa using hxy), h y i]
    split
    · rfl
    · rename_i hi
      rw [List.getElem?_eq_none (Nat.le_of_not_lt hi), List.getElem?_singleton]
      split <;> simp [hxy]

end Indexes

namespace SymbolTable

variable {t u : SymbolTable} {names : List String} {name symbol : String}

/-- Each entry is a name with its symbol, and either map leads to the places of the entries. -/
structure InStep (t : SymbolTable) : Prop where
  entries : ∀ entry ∈ t.entries, entry.2 = Symbol.ofName entry.1
  byName : Indexes t.byName t.names
  bySymbol : Indexes t.bySymbol t.symbols

theorem inStep_empty : InStep empty := ⟨nofun, .empty, .empty⟩

namespace InStep

theorem name?_eq_some_iff (h : t.InStep) :
    t.name? symbol = some name ↔ (name, symbol) ∈ t.entries := by
  refine h.bySymbol.lookup_eq_some_iff.trans ⟨?_, fun hmem => ⟨_, hmem, rfl, rfl⟩⟩
  rintro ⟨entry, hentry, rfl, rfl⟩
  exact hentry

theorem symbol?_eq_some_iff (h : t.InStep) :
    t.symbol? name = some symbol ↔ (name, symbol) ∈ t.entries := by
  refine h.byName.lookup_eq_some_iff.trans ⟨?_, fun hmem => ⟨_, hmem, rfl, rfl⟩⟩
  rintro ⟨entry, hentry, rfl, rfl⟩
  exact hentry

theorem name?_eq_none_iff (h : t.InStep) : t.name? symbol = none ↔ symbol ∉ t.symbols := by
  simp [Option.eq_none_iff_forall_ne_some, h.name?_eq_some_iff, symbols]

theorem symbol?_eq_none_iff (h : t.InStep) : t.symbol? name = none ↔ name ∉ t.names := by
  simp [Option.eq_none_iff_forall_ne_some, h.symbol?_eq_some_iff, SymbolTable.names]

/-- What one insertion does to a table in step: it is in step again with one entry more. -/
theorem insert_ok (h : t.InStep) (hu : t.insert name = .ok u) :
    u.InStep ∧ u.entries = t.entries ++ [(name, Symbol.ofName name)] ∧
      Symbol.ofName name ∉ t.symbols := by
  unfold SymbolTable.insert at hu
  dsimp only at hu
  split at hu
  · exact absurd hu (by simp)
  · rename_i hnone
    obtain rfl := Except.ok.inj hu
    have hsymbol : Symbol.ofName name ∉ t.symbols := h.name?_eq_none_iff.mp hnone
    have hname : name ∉ t.names := by
      intro hmem
      obtain ⟨entry, hentry, rfl⟩ := List.mem_map.mp hmem
      exact hsymbol (List.mem_map.mpr ⟨entry, hentry, h.entries entry hentry⟩)
    refine ⟨⟨?_, ?_, ?_⟩, rfl, hsymbol⟩
    · rintro entry hentry
      rcases List.mem_append.mp hentry with hentry | hentry
      · exact h.entries entry hentry
      · rw [List.mem_singleton.mp hentry]
    · have hinsert := h.byName.insert hname
      rw [SymbolTable.names, List.length_map] at hinsert
      simpa [SymbolTable.names] using hinsert
    · have hinsert := h.bySymbol.insert hsymbol
      rw [symbols, List.length_map] at hinsert
      simpa [symbols] using hinsert

/-- An insertion that fails names the entry that has the symbol already. -/
theorem insert_error {c : SymbolCollision} (h : t.InStep) (hc : t.insert name = .error c) :
    (c.first, c.symbol) ∈ t.entries ∧ c.second = name ∧ c.symbol = Symbol.ofName name := by
  unfold SymbolTable.insert at hc
  dsimp only at hc
  split at hc
  · rename_i first hfirst
    obtain rfl := Except.error.inj hc
    exact ⟨h.name?_eq_some_iff.mp hfirst, rfl, rfl⟩
  · exact absurd hc (by simp)

end InStep

/-! ### Lookups -/

/-- What a table tells of the names it was made from: each name and its symbol lead to one another
and to the place of the name, and nothing else leads anywhere. -/
structure Pairs (t : SymbolTable) (names : List String) : Prop where
  inStep : t.InStep
  entries : t.entries = names.map fun name => (name, Symbol.ofName name)
  length : t.entries.length = names.length
  position : ∀ name i, t.position? name = some i ↔ names[i]? = some name
  position_absent : ∀ name ∉ names, t.position? name = none
  symbol : ∀ name ∈ names, t.symbol? name = some (Symbol.ofName name)
  symbol_absent : ∀ name ∉ names, t.symbol? name = none
  name : ∀ name ∈ names, t.name? (Symbol.ofName name) = some name
  name_absent : ∀ symbol ∉ t.symbols, t.name? symbol = none
  name_of_symbol : ∀ name ∈ names, (t.symbol? name).bind t.name? = some name
  symbol_of_name : ∀ symbol ∈ t.symbols, (t.name? symbol).bind t.symbol? = some symbol

theorem names_of_entries (h : t.entries = names.map fun name => (name, Symbol.ofName name)) :
    t.names = names := by
  rw [SymbolTable.names, h, List.map_map]
  exact List.map_id' names

theorem symbols_of_entries (h : t.entries = names.map fun name => (name, Symbol.ofName name)) :
    t.symbols = names.map Symbol.ofName := by
  rw [symbols, h, List.map_map]
  rfl

theorem InStep.pairs (h : t.InStep)
    (hentries : t.entries = names.map fun name => (name, Symbol.ofName name)) : t.Pairs names := by
  have hnames := names_of_entries hentries
  have hentry : ∀ name ∈ names, (name, Symbol.ofName name) ∈ t.entries := fun name hname =>
    hentries ▸ List.mem_map_of_mem hname
  have hsymbol : ∀ name ∈ names, t.symbol? name = some (Symbol.ofName name) := fun name hname =>
    h.symbol?_eq_some_iff.mpr (hentry name hname)
  have hname : ∀ name ∈ names, t.name? (Symbol.ofName name) = some name := fun name hname =>
    h.name?_eq_some_iff.mpr (hentry name hname)
  refine ⟨h, hentries, by rw [hentries, List.length_map], fun name i => hnames ▸ h.byName name i,
    fun name hnot => h.byName.eq_none_iff.mpr (hnames ▸ hnot), hsymbol,
    fun name hnot => h.symbol?_eq_none_iff.mpr (hnames ▸ hnot), hname,
    fun symbol hnot => h.name?_eq_none_iff.mpr hnot, fun name hmem => ?_, fun symbol hmem => ?_⟩
  · rw [hsymbol name hmem, Option.bind_some, hname name hmem]
  · rw [symbols_of_entries hentries] at hmem
    obtain ⟨name, hnamed, rfl⟩ := List.mem_map.mp hmem
    rw [hname name hnamed, Option.bind_some, hsymbol name hnamed]

end SymbolTable

/-! ### Collisions -/

/-- Whether a name before place `j` has the symbol of the name there. -/
def Symbol.Recurs (names : List String) (j : Nat) : Prop :=
  ∃ i < j, ∃ earlier name, names[i]? = some earlier ∧ names[j]? = some name ∧
    Symbol.ofName earlier = Symbol.ofName name

/-- The collision is that of the first name whose symbol had occurred, with the one name before it
that has the symbol. -/
structure SymbolCollision.IsFirst (c : SymbolCollision) (names : List String) (j : Nat) : Prop where
  recurs : Symbol.Recurs names j
  least : ∀ k < j, ¬ Symbol.Recurs names k
  second : names[j]? = some c.second
  symbol : c.symbol = Symbol.ofName c.second
  first : ∃ i < j, names[i]? = some c.first ∧
    ∀ k < j, ∀ name, names[k]? = some name → (Symbol.ofName name = c.symbol ↔ k = i)

theorem Symbol.nodup_iff_recurs {names : List String} :
    (names.map ofName).Nodup ↔ ∀ j, ¬ Recurs names j := by
  rw [List.nodup_iff_getElem?_ne_getElem?]
  constructor
  · rintro h j ⟨i, hij, earlier, name, hi, hj, heq⟩
    have hlt : j < (names.map ofName).length := by
      rw [List.length_map]
      exact (List.getElem?_eq_some_iff.mp hj).1
    refine h i j hij hlt ?_
    rw [List.getElem?_map, List.getElem?_map, hi, hj, Option.map_some, Option.map_some, heq]
  · intro h i j hij hj heq
    rw [List.length_map] at hj
    have hi := Nat.lt_trans hij hj
    rw [List.getElem?_map, List.getElem?_map, List.getElem?_eq_getElem hi,
      List.getElem?_eq_getElem hj] at heq
    exact h j ⟨i, hij, _, _, List.getElem?_eq_getElem hi, List.getElem?_eq_getElem hj,
      Option.some.inj heq⟩

namespace SymbolTable

variable {t u : SymbolTable}

/-- The name behind names with different symbols collides first if it collides at all. -/
theorem isFirst_of_mem {names : List String} (hn : (names.map Symbol.ofName).Nodup)
    {name first : String} (rest : List String) (hfirst : first ∈ names)
    (hsymbol : Symbol.ofName first = Symbol.ofName name) :
    SymbolCollision.IsFirst { first, second := name, symbol := Symbol.ofName name }
      (names ++ name :: rest) names.length := by
  obtain ⟨i, hi, rfl⟩ := List.mem_iff_getElem.mp hfirst
  have hbefore : ∀ {k}, k < names.length → (names ++ name :: rest)[k]? = names[k]? :=
    fun hk => List.getElem?_append_left hk
  have hlast : (names ++ name :: rest)[names.length]? = some name := by
    rw [List.getElem?_append_right (Nat.le_refl _), Nat.sub_self, List.getElem?_cons_zero]
  have hfirst : (names ++ name :: rest)[i]? = some names[i] := by
    rw [hbefore hi, List.getElem?_eq_getElem hi]
  refine ⟨⟨i, hi, _, _, hfirst, hlast, hsymbol⟩, ?_, hlast, rfl, i, hi, hfirst, ?_⟩
  · rintro k hk ⟨l, hl, earlier, other, hearlier, hother, heq⟩
    rw [hbefore hk] at hother
    rw [hbefore (Nat.lt_trans hl hk)] at hearlier
    exact Symbol.nodup_iff_recurs.mp hn k ⟨l, hl, earlier, other, hearlier, hother, heq⟩
  · intro k hk other hother
    rw [hbefore hk] at hother
    obtain ⟨-, rfl⟩ := List.getElem?_eq_some_iff.mp hother
    have hk' : k < (names.map Symbol.ofName).length := by simpa using hk
    have hi' : i < (names.map Symbol.ofName).length := by simpa using hi
    have hinj : (names.map Symbol.ofName)[k] = (names.map Symbol.ofName)[i] ↔ k = i :=
      hn.getElem_inj_iff
    rw [List.getElem_map, List.getElem_map] at hinj
    rw [← hinj, hsymbol]

/-- Insertions go on as long as the symbols differ, each keeping the table in step, and the first
symbol that occurred before is reported. -/
theorem InStep.foldlM_insert (done : List String) (h : t.InStep)
    (hentries : t.entries = done.map fun name => (name, Symbol.ofName name)) (names : List String) :
    match names.foldlM SymbolTable.insert t with
    | .ok u => u.InStep ∧ u.entries = (done ++ names).map fun name => (name, Symbol.ofName name)
    | .error c => ∃ j, c.IsFirst (done ++ names) j := by
  induction names generalizing t done with
  | nil =>
    rw [List.append_nil]
    exact ⟨h, hentries⟩
  | cons name names ih =>
    rw [List.foldlM_cons]
    cases hinsert : t.insert name with
    | error c =>
      obtain ⟨hmem, rfl, hsymbol⟩ := h.insert_error hinsert
      obtain ⟨first, second, symbol⟩ := c
      obtain rfl : symbol = Symbol.ofName second := hsymbol
      rw [hentries, List.mem_map] at hmem
      obtain ⟨first, hfirst, hentry⟩ := hmem
      obtain ⟨rfl, hsymbol⟩ := Prod.mk.inj hentry
      have hnodup := h.bySymbol.nodup
      rw [symbols_of_entries hentries] at hnodup
      exact ⟨done.length, isFirst_of_mem hnodup names hfirst hsymbol⟩
    | ok u =>
      obtain ⟨hu, hentries', -⟩ := h.insert_ok hinsert
      rw [hentries] at hentries'
      have hrun := ih (done ++ [name]) hu (by rw [hentries', List.map_append]; rfl)
      rw [List.append_assoc] at hrun
      exact hrun

/-- A table that is made is in step, and otherwise the first collision is reported. -/
theorem inStep_or_isFirst (names : List String) :
    match ofNames names with
    | .ok t => t.InStep ∧ t.entries = names.map fun name => (name, Symbol.ofName name)
    | .error c => ∃ j, c.IsFirst names j :=
  inStep_empty.foldlM_insert [] rfl names

theorem pairs_ofNames {names : List String} (h : ofNames names = .ok t) : t.Pairs names := by
  have hrun := inStep_or_isFirst names
  rw [h] at hrun
  exact hrun.1.pairs hrun.2

/-- **Names with different symbols make a table that leads both ways, and otherwise the first
collision is reported.** -/
theorem pairsOrCollides (names : List String) :
    (∀ name, Symbol.IsSymbol (Symbol.ofName name) ∧
      Symbol.ofName (Symbol.ofName name) = Symbol.ofName name ∧
      (Symbol.ofName name = name ↔ Symbol.IsSymbol name)) ∧
    ((∃ t, ofNames names = .ok t) ↔ (names.map Symbol.ofName).Nodup) ∧
    match ofNames names with
    | .ok t => t.Pairs names
    | .error c => ∃ j, c.IsFirst names j := by
  have hsymbol := Symbol.isSymbol_ofName
  refine ⟨fun name => ⟨hsymbol name, Symbol.ofName_of_isSymbol (hsymbol name),
    Symbol.ofName_eq_self_iff⟩, ?_⟩
  cases hnames : ofNames names with
  | ok t =>
    have hpairs := pairs_ofNames hnames
    have hnodup := hpairs.inStep.bySymbol.nodup
    rw [symbols_of_entries hpairs.entries] at hnodup
    exact ⟨⟨fun _ => hnodup, fun _ => ⟨t, rfl⟩⟩, hpairs⟩
  | error c =>
    have hrun := inStep_or_isFirst names
    rw [hnames] at hrun
    obtain ⟨j, hfirst⟩ := hrun
    refine ⟨⟨?_, fun hnodup => absurd hfirst.recurs (Symbol.nodup_iff_recurs.mp hnodup j)⟩,
      j, hfirst⟩
    rintro ⟨t, ht⟩
    exact absurd ht (by simp)

end SymbolTable
end Gazetteer
