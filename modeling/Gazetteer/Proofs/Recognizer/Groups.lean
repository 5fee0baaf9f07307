import Gazetteer.Proofs.Group.Compiled
import Gazetteer.Proofs.Vocabulary.Built
import Gazetteer.Recognizer

/-! Groups of a recognizer.

A vocabulary compiles if each of its groups does. A name then leads through the index to the group
that was compiled from what the vocabulary holds under this name, and no group depends on another
(`Recognizer.compilesGroupwise`). -/
namespace Gazetteer.Recognizer

variable {v : Vocabulary} {wordBoundaries : Bool} {r : Recognizer}

/-! ### Compiling -/

theorem compileAll_eq_mapM (wordBoundaries : Bool) (groups : List TermGroup) :
    compileAll wordBoundaries groups = groups.mapM fun g =>
      (CompiledGroup.ofGroup g wordBoundaries).mapError (.compilation g.name) := by
  induction groups with
  | nil => rfl
  | cons g groups ih => rw [compileAll, List.mapM_cons, ih]

theorem ofVocabulary_ok (h : ofVocabulary v wordBoundaries = .ok r) :
    List.Forall₂ (fun g c => CompiledGroup.ofGroup g wordBoundaries = .ok c) v.groups r.groups := by
  obtain ⟨cs, hcs, h⟩ := exists_of_bind_eq_ok h
  obtain rfl := Except.ok.inj h
  rw [compileAll_eq_mapM] at hcs
  exact (forall₂_of_mapM_eq_ok hcs).imp fun _ _ => mapError_eq_ok_iff.mp

/-- The group `g` is the first that does not compile, for the given cause. -/
structure IsFirstFailure (wordBoundaries : Bool) (groups : List TermGroup) (g : TermGroup)
    (cause : CompileError) : Prop where
  first : ∃ before after, groups = before ++ g :: after ∧
    ∀ h ∈ before, ∃ c, CompiledGroup.ofGroup h wordBoundaries = .ok c
  fails : CompiledGroup.ofGroup g wordBoundaries = .error cause

theorem compileAll_eq_error_iff {groups : List TermGroup} {e : Error} :
    compileAll wordBoundaries groups = .error e ↔
      ∃ g cause, IsFirstFailure wordBoundaries groups g cause ∧ e = .compilation g.name cause := by
  rw [compileAll_eq_mapM, mapM_eq_error_iff]
  simp only [mapError_eq_error_iff, mapError_eq_ok_iff]
  constructor
  · rintro ⟨before, g, after, hsplit, hbefore, cause, hfails, rfl⟩
    exact ⟨g, cause, ⟨⟨before, after, hsplit, hbefore⟩, hfails⟩, rfl⟩
  · rintro ⟨g, cause, ⟨⟨before, after, hsplit, hbefore⟩, hfails⟩, rfl⟩
    exact ⟨before, g, after, hsplit, hbefore, cause, hfails, rfl⟩

theorem ofVocabulary_eq (v : Vocabulary) (wordBoundaries : Bool) :
    ofVocabulary v wordBoundaries =
      (compileAll wordBoundaries v.groups).map fun groups => { groups, wordBoundaries } := by
  unfold ofVocabulary
  cases compileAll wordBoundaries v.groups <;> rfl

theorem ofVocabulary_eq_error_iff {e : Error} :
    ofVocabulary v wordBoundaries = .error e ↔
      ∃ g cause, IsFirstFailure wordBoundaries v.groups g cause ∧ e = .compilation g.name cause := by
  rw [ofVocabulary_eq, ← compileAll_eq_error_iff]
  cases compileAll wordBoundaries v.groups <;> simp [Except.map]

/-- All groups have to compile. -/
theorem exists_ofVocabulary_iff :
    (∃ r, ofVocabulary v wordBoundaries = .ok r) ↔
      ∀ g ∈ v.groups, ∃ c, CompiledGroup.ofGroup g wordBoundaries = .ok c := by
  constructor
  · rintro ⟨r, hr⟩ g hg
    obtain ⟨c, -, hc⟩ := exists_mem_of_forall₂ (ofVocabulary_ok hr) hg
    exact ⟨c, hc⟩
  · intro h
    cases hr : ofVocabulary v wordBoundaries with
    | ok r => exact ⟨r, rfl⟩
    | error e =>
      obtain ⟨g, cause, ⟨⟨before, after, hsplit, -⟩, hfails⟩, -⟩ := ofVocabulary_eq_error_iff.mp hr
      obtain ⟨c, hc⟩ := h g (by simp [hsplit])
      rw [hfails] at hc
      exact absurd hc (by simp)

/-! ### Names -/

theorem entityNames_eq (h : ofVocabulary v wordBoundaries = .ok r) :
    r.entityNames = v.groups.map TermGroup.name := by
  have hnames : List.Forall₂ (· = ·) (v.groups.map TermGroup.name)
      (r.groups.map CompiledGroup.name) := by
    rw [List.forall₂_map_left_iff, List.forall₂_map_right_iff]
    exact (ofVocabulary_ok h).imp fun _ _ hc => (CompiledGroup.name_eq hc).symm
  rw [List.forall₂_eq_eq_eq] at hnames
  exact hnames.symm

theorem nodup_entityNames (hv : v.IsBuilt) (h : ofVocabulary v wordBoundaries = .ok r) :
    r.entityNames.Nodup := by
  rw [entityNames_eq h]
  exact hv.nodup

/-- If no name is given twice, the index leads to where a name stands. -/
theorem lookup_index (hnames : r.entityNames.Nodup) {name : String} {i : Nat} :
    r.index.lookup name = some i ↔ r.entityNames[i]? = some name := by
  have hmem : ∀ n j, (n, j) ∈ r.index ↔ r.entityNames[j]? = some n := fun n j => by
    rw [index, List.mem_reverse, List.mk_mem_zipIdx_iff_getElem?]
  constructor
  · intro h
    obtain ⟨before, after, hsplit, -⟩ := List.lookup_eq_some_iff.mp h
    exact (hmem name i).mp (by simp [hsplit])
  · intro h
    cases hlookup : r.index.lookup name with
    | none =>
      have hne := List.lookup_eq_none_iff.mp hlookup _ ((hmem name i).mpr h)
      exact absurd rfl (bne_iff_ne.mp hne)
    | some j =>
      obtain ⟨before, after, hsplit, -⟩ := List.lookup_eq_some_iff.mp hlookup
      -- Both places hold the name, and no name stands at two.
      have hj : r.entityNames[j]? = some name := (hmem name j).mp (by simp [hsplit])
      obtain ⟨hlt, hname⟩ := List.getElem?_eq_some_iff.mp h
      obtain ⟨hlt', hname'⟩ := List.getElem?_eq_some_iff.mp hj
      exact congrArg some ((List.Nodup.getElem_inj_iff hnames).mp (hname'.trans hname.symm))

theorem lookup_index_eq_none {name : String} (h : name ∉ r.entityNames) :
    r.index.lookup name = none := by
  rw [List.lookup_eq_none_iff]
  rintro ⟨n, j⟩ hmem
  rw [index, List.mem_reverse, List.mk_mem_zipIdx_iff_getElem?] at hmem
  rw [bne_iff_ne]
  rintro rfl
  exact h (List.mem_of_getElem? hmem)

/-- A declared group is found by its name. -/
theorem group_eq (hnames : r.entityNames.Nodup) {c : CompiledGroup} (hc : c ∈ r.groups) :
    r.group c.name = .ok c := by
  obtain ⟨i, hi⟩ := List.mem_iff_getElem?.mp hc
  have hplace : r.entityNames[i]? = some c.name := by
    rw [entityNames, List.getElem?_map, hi]
    rfl
  unfold group
  rw [(lookup_index hnames).mpr hplace, Option.bind_some, hi]

theorem group_eq_error {name : String} (h : name ∉ r.entityNames) :
    r.group name = .error (.unknownGroup name r.entityNames) := by
  unfold group
  rw [lookup_index_eq_none h, Option.bind_none]

theorem mem_of_group {name : String} {c : CompiledGroup} (h : r.group name = .ok c) :
    c ∈ r.groups := by
  unfold group at h
  split at h
  · rename_i d hd
    obtain rfl := Except.ok.inj h
    obtain ⟨i, -, hi⟩ := Option.bind_eq_some_iff.mp hd
    exact List.mem_of_getElem? hi
  · exact absurd h (by simp)

/-- What is found under a name has been compiled from what the vocabulary holds under it. -/
theorem group_of_get? (hv : v.IsBuilt) (h : ofVocabulary v wordBoundaries = .ok r) {name : String}
    {g : TermGroup} (hg : v.get? name = some g) :
    ∃ c, CompiledGroup.ofGroup g wordBoundaries = .ok c ∧ r.group name = .ok c := by
  obtain ⟨c, hc, hcompiled⟩ :=
    exists_mem_of_forall₂ (ofVocabulary_ok h) (List.mem_of_find?_eq_some hg)
  have hgroup := group_eq (nodup_entityNames hv h) hc
  rw [CompiledGroup.name_eq hcompiled, Vocabulary.name_of_get? hg] at hgroup
  exact ⟨c, hcompiled, hgroup⟩

theorem group_of_absent (h : ofVocabulary v wordBoundaries = .ok r) {name : String}
    (hname : v.get? name = none) :
    r.group name = .error (.unknownGroup name (v.groups.map TermGroup.name)) := by
  rw [← entityNames_eq h]
  refine group_eq_error ?_
  rw [entityNames_eq h]
  exact Vocabulary.get?_eq_none_iff.mp hname

/-! ### Groups one by one -/

/-- Compiling the vocabulary `v` compiles its groups, each for itself. -/
structure CompilesGroupwise (v : Vocabulary) (wordBoundaries : Bool) : Prop where
  compiles : (∃ r, ofVocabulary v wordBoundaries = .ok r) ↔
    ∀ g ∈ v.groups, ∃ c, CompiledGroup.ofGroup g wordBoundaries = .ok c
  /-- The first group that does not compile is reported, and why. -/
  fails : ∀ e, ofVocabulary v wordBoundaries = .error e ↔
    ∃ g cause, IsFirstFailure wordBoundaries v.groups g cause ∧ e = .compilation g.name cause
  names : ∀ r, ofVocabulary v wordBoundaries = .ok r →
    r.entityNames = v.groups.map TermGroup.name
  declared : ∀ r, ofVocabulary v wordBoundaries = .ok r → ∀ name ∈ v.groups.map TermGroup.name,
    ∃ g c, v.get? name = some g ∧ CompiledGroup.ofGroup g wordBoundaries = .ok c ∧
      r.group name = .ok c
  unknown : ∀ r, ofVocabulary v wordBoundaries = .ok r → ∀ name ∉ v.groups.map TermGroup.name,
    r.group name = .error (.unknownGroup name (v.groups.map TermGroup.name))
  /-- Whatever else another vocabulary holds, a group that both hold finds the same. -/
  independent : ∀ r, ofVocabulary v wordBoundaries = .ok r → ∀ w s, w.IsBuilt →
    ofVocabulary w wordBoundaries = .ok s → ∀ name g, v.get? name = some g →
    w.get? name = some g → ∀ text, (∃ es, r.extract name text = .ok es ∧
      s.extract name text = .ok es) ∧
      ∀ term method, r.isolate name term text method = s.isolate name term text method

theorem compilesGroupwise (hv : v.IsBuilt) (wordBoundaries : Bool) :
    CompilesGroupwise v wordBoundaries := by
  refine ⟨exists_ofVocabulary_iff, fun _ => ofVocabulary_eq_error_iff, fun _ => entityNames_eq,
    fun r hr name hname => ?_, fun r hr name hname => ?_, ?_⟩
  · cases hg : v.get? name with
    | none => exact absurd hname (Vocabulary.get?_eq_none_iff.mp hg)
    | some g =>
      obtain ⟨c, hc, hgroup⟩ := group_of_get? hv hr hg
      exact ⟨g, c, rfl, hc, hgroup⟩
  · exact group_of_absent hr (Vocabulary.get?_eq_none_iff.mpr hname)
  · intro r hr w s hw hs name g hg hg' text
    obtain ⟨c, hc, hgroup⟩ := group_of_get? hv hr hg
    obtain ⟨d, hd, hgroup'⟩ := group_of_get? hw hs hg'
    obtain rfl := Except.ok.inj (hc.symm.trans hd)
    refine ⟨⟨c.extract text, ?_, ?_⟩, fun term method => ?_⟩
    · rw [extract, hgroup]
      rfl
    · rw [extract, hgroup']
      rfl
    · rw [isolate, isolate, hgroup, hgroup']

/-- A group finds the same behind others as in front of them and whatever their flags are; where
two groups do not compile the first of them is reported. -/
theorem compilesGroupwise_beside_others :
    let tags : List TermGroup.Edit := [.term "a" "a", .term "ab" "ab?", .flags (some (.bits 0))]
    let v := Vocabulary.empty.changed
      [.group "other" [.term "b" "b", .flags (some (.bits 0))], .group "tag" tags]
    let w := Vocabulary.empty.changed [.group "tag" tags,
      .group "other" [.term "b" "b"], .edit "other" (.flags (some (.token "verbose")))]
    let u := (v.insertGroup ⟨"none", [], none⟩).insertGroup ⟨"open", [⟨"a", "("⟩], some (.bits 0)⟩
    (∃ r s, ofVocabulary v false = .ok r ∧ ofVocabulary w false = .ok s ∧
      r.entityNames = ["other", "tag"] ∧ s.entityNames = ["tag", "other"] ∧
      r.extract "tag" "xab" = s.extract "tag" "xab" ∧
      (r.extract "tag" "xab").toOption.map (fun es => es.map (·.span)) = some [⟨1, 2⟩]) ∧
    ofVocabulary u false = .error (.compilation "none" .emptyGroup) := by
  intro tags v w u
  have hv : v.IsBuilt := Vocabulary.isBuilt_changed _
  have hw : w.IsBuilt := Vocabulary.isBuilt_changed _
  have hspans : (ofVocabulary v false).toOption.bind (fun r =>
      (r.extract "tag" "xab").toOption.map fun es => es.map (·.span)) = some [⟨1, 2⟩] := by
    decide +kernel
  have hsome : (ofVocabulary w false).toOption.isSome := by decide +kernel
  cases hr : ofVocabulary v false with
  | error e => rw [hr] at hspans; exact absurd hspans (by simp [Except.toOption])
  | ok r =>
    cases hs : ofVocabulary w false with
    | error e => rw [hs] at hsome; exact absurd hsome (by simp [Except.toOption])
    | ok s =>
      rw [hr] at hspans
      have hall := compilesGroupwise hv false
      have htag : v.get? "tag" = some ((TermGroup.empty "tag").edited tags) := rfl
      obtain ⟨⟨es, hextract, hextract'⟩, -⟩ :=
        hall.independent r hr w s hw hs "tag" _ htag rfl "xab"
      refine ⟨⟨r, s, rfl, rfl, hall.names r hr, (compilesGroupwise hw false).names s hs,
        hextract.trans hextract'.symm, hspans⟩, ?_⟩
      refine ((compilesGroupwise (.insert (.insert hv _) _) false).fails _).mpr
        ⟨⟨"none", [], none⟩, .emptyGroup, ⟨⟨v.groups, [⟨"open", _, _⟩], rfl, ?_⟩, rfl⟩, rfl⟩
      exact hall.compiles.mp ⟨r, hr⟩

end Gazetteer.Recognizer
