import Gazetteer.Proofs.Group.Extraction

/-! Isolation and extraction.

Isolating a term gives the entities that are extracted under its name
(`CompiledGroup.isolates`). Extraction goes by names and isolation by places of declaration; the two
agree since a name tells which term is meant. -/
namespace Gazetteer

/-- The entity that a match stands for which a term of the group won. -/
def TermMatch.entity (group : String) (m : TermMatch) : NamedEntity where
  name := m.term
  entity := group
  string := m.string
  span := m.span

namespace CompiledGroup

variable {g : TermGroup} {wordBoundaries : Bool} {c : CompiledGroup} {term text : String} {i : Nat}

/-! ### Declared terms -/

theorem resolveTerm_of_getElem? (hc : ofGroup g wordBoundaries = .ok c)
    (hi : (g.terms.map Term.name)[i]? = some term) : c.resolveTerm term = .ok i := by
  unfold resolveTerm
  rw [(termIndex?_eq_some_iff hc).mpr hi]

theorem resolveTerm_of_not_mem (hc : ofGroup g wordBoundaries = .ok c)
    (hterm : term ∉ g.terms.map Term.name) :
    c.resolveTerm term = .error (.unknownTerm g.name term (g.terms.map Term.name)) := by
  unfold resolveTerm
  rw [(termIndex?_eq_none_iff hc).mpr hterm, name_eq hc, names_eq hc]

/-- Asking for a term fails just if it was not declared. -/
theorem map_resolveTerm_eq_error_iff (hc : ofGroup g wordBoundaries = .ok c) {α : Type}
    (f : Nat → α) :
    (c.resolveTerm term).map f = .error (.unknownTerm g.name term (g.terms.map Term.name)) ↔
      term ∉ g.terms.map Term.name := by
  constructor
  · intro h hterm
    obtain ⟨i, hi⟩ := List.mem_iff_getElem?.mp hterm
    rw [resolveTerm_of_getElem? hc hi] at h
    exact absurd h (by simp [Except.map])
  · intro hterm
    rw [resolveTerm_of_not_mem hc hterm]
    rfl

theorem search_eq_map (c : CompiledGroup) (term text : String) :
    c.search term text = (c.resolveTerm term).map fun i => (c.termMatches i term text).head? := by
  unfold search
  cases c.resolveTerm term <;> rfl

theorem findIter_eq_map (c : CompiledGroup) (term text : String) :
    c.findIter term text = (c.resolveTerm term).map fun i =>
      if c.termMatches i term text = [] then none else some (c.termMatches i term text) := by
  unfold findIter
  cases c.resolveTerm term with
  | error e => rfl
  | ok i =>
    simp only [bind, Except.bind, pure, Except.pure, Except.map]
    cases c.termMatches i term text <;> rfl

theorem findAll_eq_map (c : CompiledGroup) (term text : String) :
    c.findAll term text = (c.resolveTerm term).map fun i =>
      if c.rows i text = [] then none else some (c.rows i text) := by
  unfold findAll
  cases c.resolveTerm term with
  | error e => rfl
  | ok i =>
    simp only [bind, Except.bind, pure, Except.pure, Except.map]
    cases c.rows i text <;> rfl

theorem search_eq (hc : ofGroup g wordBoundaries = .ok c)
    (hi : (g.terms.map Term.name)[i]? = some term) (text : String) :
    c.search term text = .ok (c.termMatches i term text).head? := by
  rw [search_eq_map, resolveTerm_of_getElem? hc hi]
  rfl

theorem findIter_eq (hc : ofGroup g wordBoundaries = .ok c)
    (hi : (g.terms.map Term.name)[i]? = some term) (text : String) :
    c.findIter term text =
      .ok (if c.termMatches i term text = [] then none else some (c.termMatches i term text)) := by
  rw [findIter_eq_map, resolveTerm_of_getElem? hc hi]
  rfl

theorem findAll_eq (hc : ofGroup g wordBoundaries = .ok c)
    (hi : (g.terms.map Term.name)[i]? = some term) (text : String) :
    c.findAll term text = .ok (if c.rows i text = [] then none else some (c.rows i text)) := by
  rw [findAll_eq_map, resolveTerm_of_getElem? hc hi]
  rfl

/-! ### The entities of a term -/

/-- The matches that a term won are the entities of its name. -/
theorem map_entity_termMatches (hc : ofGroup g wordBoundaries = .ok c)
    (hi : (g.terms.map Term.name)[i]? = some term) (text : String) :
    (c.termMatches i term text).map (TermMatch.entity g.name) =
      (c.extract text).filter (·.name == term) := by
  unfold termMatches extract
  rw [List.map_filterMap, List.filter_filterMap]
  refine List.filterMap_congr fun m _ => ?_
  unfold entityOf?
  rw [names_eq hc, name_eq hc]
  cases hterm : c.matchedTerm? m with
  | none => rfl
  | some j =>
    have hj := matchedTerm?_lt hc hterm
    -- The names are all different, so the winner has the name if and only if it stands at `i`.
    have hname : (g.terms.map Term.name)[j] = term ↔ j = i := by
      obtain ⟨hlt, rfl⟩ := List.getElem?_eq_some_iff.mp hi
      exact List.Nodup.getElem_inj_iff (nodup_names hc)
    simp only [Option.bind_eq_bind, Option.bind_some, List.getElem?_eq_getElem hj, Option.pure_def,
      Option.filter_some, beq_iff_eq, Option.some.injEq, hname]
    split
    · rename_i heq
      rw [Option.map_some, TermMatch.entity, hname.mpr heq]
      rfl
    · rfl

/-- Lists of different names part the entities between them. -/
theorem perm_flatMap_filter (names : List String) (hnames : names.Nodup) (es : EntityList)
    (h : ∀ e ∈ es, e.name ∈ names) : (names.flatMap fun n => es.filter (·.name == n)).Perm es := by
  induction names generalizing es with
  | nil =>
    rw [List.eq_nil_iff_forall_not_mem.mpr fun e he => absurd (h e he) (List.not_mem_nil)]
    exact .nil
  | cons n names ih =>
    obtain ⟨hn, hnames⟩ := List.nodup_cons.mp hnames
    let others := es.filter fun e => !(e.name == n)
    have hothers : ∀ e ∈ others, e.name ∈ names := by
      intro e he
      obtain ⟨he, hne⟩ := List.mem_filter.mp he
      have hne : e.name ≠ n := by simpa using hne
      exact (List.mem_cons.mp (h e he)).resolve_left hne
    have hsame : (names.flatMap fun m => es.filter (·.name == m)) =
        names.flatMap fun m => others.filter (·.name == m) := by
      refine List.flatMap_congr fun m hm => ?_
      rw [List.filter_filter]
      refine List.filter_congr fun e _ => ?_
      by_cases hem : e.name = m
      · have : e.name ≠ n := fun heq => hn (heq ▸ hem ▸ hm)
        simp [hem, hem ▸ this]
      · simp [hem]
    rw [List.flatMap_cons, hsame]
    exact ((ih hnames others hothers).append_left _).trans (List.filter_append_perm ..)

/-- In the text `text` isolating a term of the group gives the entities extracted under its name. -/
structure Isolates (g : TermGroup) (c : CompiledGroup) (text : String) : Prop where
  /-- Whatever the text is, what was not declared is unknown, and nothing else is. -/
  unknown : ∀ term,
    let unknownTerm : Error := .unknownTerm g.name term (g.terms.map Term.name)
    (c.search term text = .error unknownTerm ↔ term ∉ g.terms.map Term.name) ∧
      (c.findIter term text = .error unknownTerm ↔ term ∉ g.terms.map Term.name) ∧
      (c.findAll term text = .error unknownTerm ↔ term ∉ g.terms.map Term.name)
  search : ∀ term ∈ g.terms.map Term.name, ∃ found, c.search term text = .ok found ∧
    found.map (TermMatch.entity g.name) = ((c.extract text).filter (·.name == term)).head?
  findIter : ∀ term ∈ g.terms.map Term.name, ∃ found, c.findIter term text = .ok found ∧
    (found.getD []).map (TermMatch.entity g.name) = (c.extract text).filter (·.name == term) ∧
    (found = none ↔ ∀ e ∈ c.extract text, e.name ≠ term)
  findAll : ∀ term ∈ g.terms.map Term.name, ∃ rows, c.findAll term text = .ok rows
  /-- Every entity belongs to just one term. -/
  parted : ((g.terms.map Term.name).flatMap fun term =>
    ((c.findIter term text).toOption.join.getD []).map (TermMatch.entity g.name)).Perm
      (c.extract text)

theorem getD_findIter (hc : ofGroup g wordBoundaries = .ok c)
    (hi : (g.terms.map Term.name)[i]? = some term) (text : String) :
    ((c.findIter term text).toOption.join.getD []).map (TermMatch.entity g.name) =
      (c.extract text).filter (·.name == term) := by
  rw [findIter_eq hc hi, ← map_entity_termMatches hc hi]
  show (Option.getD (if _ then _ else _) []).map _ = _
  split
  · rename_i hnil
    rw [hnil]
    rfl
  · rfl

/-- The entities that isolation gives, term by term, are all entities of the group. -/
theorem perm_flatMap_findIter (hc : ofGroup g wordBoundaries = .ok c) (text : String) :
    ((g.terms.map Term.name).flatMap fun term =>
      ((c.findIter term text).toOption.join.getD []).map (TermMatch.entity g.name)).Perm
        (c.extract text) := by
  have hparts : ((g.terms.map Term.name).flatMap fun term =>
      ((c.findIter term text).toOption.join.getD []).map (TermMatch.entity g.name)) =
      (g.terms.map Term.name).flatMap fun term => (c.extract text).filter (·.name == term) :=
    List.flatMap_congr fun term hterm => by
      obtain ⟨i, hi⟩ := List.mem_iff_getElem?.mp hterm
      exact getD_findIter hc hi text
  rw [hparts]
  exact perm_flatMap_filter _ (nodup_names hc) _ fun e he => (isFound_of_mem hc he).name

theorem isolates (hc : ofGroup g wordBoundaries = .ok c) (text : String) : Isolates g c text := by
  have hplace : ∀ term ∈ g.terms.map Term.name, ∃ i, (g.terms.map Term.name)[i]? = some term :=
    fun _ hterm => List.mem_iff_getElem?.mp hterm
  refine ⟨fun term => ⟨?_, ?_, ?_⟩, fun term hterm => ?_, fun term hterm => ?_, fun term hterm => ?_,
    perm_flatMap_findIter hc text⟩
  · rw [search_eq_map, map_resolveTerm_eq_error_iff hc]
  · rw [findIter_eq_map, map_resolveTerm_eq_error_iff hc]
  · rw [findAll_eq_map, map_resolveTerm_eq_error_iff hc]
  · obtain ⟨i, hi⟩ := hplace term hterm
    refine ⟨_, search_eq hc hi text, ?_⟩
    rw [← map_entity_termMatches hc hi, List.head?_map]
  · obtain ⟨i, hi⟩ := hplace term hterm
    refine ⟨_, findIter_eq hc hi text, ?_, ?_⟩
    · rw [← getD_findIter hc hi, findIter_eq hc hi]
      rfl
    · have hnil : c.termMatches i term text = [] ↔ ∀ e ∈ c.extract text, e.name ≠ term := by
        rw [← List.map_eq_nil_iff (f := TermMatch.entity g.name), map_entity_termMatches hc hi,
          List.filter_eq_nil_iff]
        simp
      rw [← hnil]
      split <;> simp_all
  · obtain ⟨i, hi⟩ := hplace term hterm
    exact ⟨_, findAll_eq hc hi text⟩

/-- What two terms match belongs to the first of them, also where the second is asked for. -/
theorem isolates_shared_match :
    let g : TermGroup := ⟨"g", [⟨"a or b", "a|b"⟩, ⟨"b", "bc?"⟩, ⟨"c", "c?"⟩], some (.bits 0)⟩
    ∃ c, ofGroup g false = .ok c ∧ Isolates g c "abcb" ∧
      (c.extract "abcb").map (·.name) = ["a or b", "a or b", "c", "a or b"] := by
  intro g
  have hnames : (ofGroup g false).toOption.map (fun c => (c.extract "abcb").map (·.name)) =
      some ["a or b", "a or b", "c", "a or b"] := by
    decide +kernel
  cases hc : ofGroup g false with
  | error e => rw [hc] at hnames; exact absurd hnames (by simp [Except.toOption])
  | ok c =>
    rw [hc] at hnames
    exact ⟨c, rfl, isolates hc "abcb", Option.some.inj hnames⟩

end CompiledGroup
end Gazetteer
