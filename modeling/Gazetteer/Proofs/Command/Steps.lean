import Gazetteer.Proofs.Command.Loading
import Gazetteer.Proofs.Group.Isolation
import Gazetteer.Proofs.Report.Results

/-! The steps of runs.

A run is a sequence of steps. It fails with the first step that does (`Command.Fails`), or it
answers when all have succeeded (`Command.Answers`), and there is nothing between
(`Command.fails_or_answers`). An extraction looks for the group before it reads any input, and an
isolation looks for the method first of all. Only the inputs of an extraction are read at once: where
several cannot be read, the run fails with the error of one of them (`Command.Fails.run_eq`). -/
namespace Gazetteer

/-! ### Names -/

theorem Recognizer.exists_group_of_mem {r : Recognizer} {name : String}
    (h : name ∈ r.entityNames) : ∃ c, r.group name = .ok c := by
  obtain ⟨i, hi⟩ := List.mem_iff_getElem?.mp h
  have hmem : (name, i) ∈ r.index := by
    rw [index, List.mem_reverse, List.mk_mem_zipIdx_iff_getElem?]
    exact hi
  cases hlookup : r.index.lookup name with
  | none =>
    have hne := List.lookup_eq_none_iff.mp hlookup _ hmem
    exact absurd rfl (bne_iff_ne.mp hne)
  | some j =>
    obtain ⟨before, after, hsplit, -⟩ := List.lookup_eq_some_iff.mp hlookup
    have hj : (name, j) ∈ r.index := by simp [hsplit]
    rw [index, List.mem_reverse, List.mk_mem_zipIdx_iff_getElem?, entityNames,
      List.getElem?_map] at hj
    obtain ⟨c, hc, -⟩ := Option.map_eq_some_iff.mp hj
    refine ⟨c, ?_⟩
    unfold group
    rw [hlookup, Option.bind_some, hc]

namespace Method
variable {name : String}

theorem exists_ofName_of_mem (h : name ∈ Error.methodNames) : ∃ m, ofName name = .ok m := by
  rcases List.mem_cons.mp h with rfl | h
  · exact ⟨.search, rfl⟩
  rcases List.mem_cons.mp h with rfl | h
  · exact ⟨.finditer, rfl⟩
  obtain rfl := List.mem_singleton.mp h
  exact ⟨.findall, rfl⟩

theorem ofName_of_notMem (h : name ∉ Error.methodNames) :
    ofName name = .error (.unknownMethod name) := by
  have hnone : all.find? (·.name == name) = none := by
    refine List.find?_eq_none.mpr fun m _ heq => h ?_
    rw [← eq_of_beq heq]
    cases m <;> decide
  rw [ofName, hnone]

end Method

namespace CompiledGroup
variable {g : TermGroup} {wordBoundaries : Bool} {c : CompiledGroup} {term : String} {m : Method}

theorem isolate_eq_map (c : CompiledGroup) (term text : String) (m : Method) :
    c.isolate term text m = (c.resolveTerm term).map fun i => match m with
      | .search => ((c.termMatches i term text).head?).map .single
      | .finditer => (if c.termMatches i term text = [] then none
          else some (c.termMatches i term text)).map .many
      | .findall => (if c.rows i text = [] then none else some (c.rows i text)).map .rows := by
  cases m <;> simp only [isolate, search_eq_map, findIter_eq_map, findAll_eq_map] <;>
    cases c.resolveTerm term <;> rfl

theorem isolate_of_notMem (hc : ofGroup g wordBoundaries = .ok c) (h : term ∉ c.names)
    (text : String) (m : Method) :
    c.isolate term text m = .error (.unknownTerm c.name term c.names) := by
  rw [names_eq hc] at h
  rw [isolate_eq_map, resolveTerm_of_not_mem hc h, name_eq hc, names_eq hc]
  rfl

end CompiledGroup

namespace Command
variable {files : Files Id} {a : Arguments} {s : Step} {e : Error} {r : Recognizer}

/-! ### Inputs read at once -/

namespace Race
variable {α : Type}

theorem mem_errors {outcomes : List (Except Error α)} :
    e ∈ errors outcomes ↔ .error e ∈ outcomes := by
  induction outcomes with
  | nil => simp [errors]
  | cons outcome outcomes ih => cases outcome <;> simp [errors, ih]

/-- Where something fails, the error of something that fails is told. -/
theorem exists_collect_eq_error (race : Race) {outcomes : List (Except Error α)}
    (h : .error e ∈ outcomes) : ∃ e', .error e' ∈ outcomes ∧ race.collect outcomes = .error e' := by
  unfold collect
  cases herrors : errors outcomes with
  | nil => exact absurd (mem_errors.mpr h) (by simp [herrors])
  | cons first others =>
    exact ⟨_, mem_errors.mp (herrors ▸ race.told_mem first others), rfl⟩

theorem collect_map_ok (race : Race) (xs : List α) : race.collect (xs.map .ok) = .ok xs := by
  have hall : errors (xs.map .ok) = [] ∧ values (xs.map .ok) = xs := by
    induction xs with
    | nil => exact ⟨rfl, rfl⟩
    | cons x xs ih => exact ⟨ih.1, congrArg (x :: ·) ih.2⟩
  rw [collect, hall.1]
  exact congrArg _ hall.2

/-- With one input there is no choice. -/
theorem collect_singleton (race : Race) (outcome : Except Error α) :
    race.collect [outcome] = outcome.map ([·]) := by
  cases outcome with
  | ok x => rfl
  | error e =>
    have hmem := race.told_mem e []
    exact congrArg _ (List.mem_singleton.mp hmem)

end Race

/-! ### Steps of commands -/

/-- What is read for the paths that are given: standard input if there are none. -/
def inputs : List String → List (Option String)
  | [] => [none]
  | paths => paths.map some

/-- The group that is asked for, if any, is known. -/
def IsKnown (r : Recognizer) (group : Option String) : Prop := ∀ g ∈ group, g ∈ r.entityNames

/-- The first step of an extraction that fails, with its error. All inputs are read in one step, which
fails with the error of any that cannot be read. -/
inductive ExtractFails (files : Files Id) (a : Arguments) (paths : List String)
    (group : Option String) : Step → Error → Prop
  | load {s : Step} {e : Error} (h : LoadFails files a s e) : ExtractFails files a paths group s e
  | group {r : Recognizer} {g : String} (hr : Loads files a r) (hgroup : group = some g)
      (h : g ∉ r.entityNames) :
      ExtractFails files a paths group .group (.unknownGroup g r.entityNames)
  | input {r : Recognizer} {path : Option String} {fault : ReadFault} (hr : Loads files a r)
      (hgroup : IsKnown r group) (hpath : path ∈ inputs paths)
      (h : content files path = .error fault) :
      ExtractFails files a paths group .inputFile (.io (Files.labelOf path) fault.message)

/-- The first step of an isolation that fails, with its error. -/
inductive IsolateFails (files : Files Id) (a : Arguments) (path : Option String)
    (group term method : String) : Step → Error → Prop
  | method (h : method ∉ Error.methodNames) :
      IsolateFails files a path group term method .method (.unknownMethod method)
  | load {s : Step} {e : Error} (hmethod : method ∈ Error.methodNames) (h : LoadFails files a s e) :
      IsolateFails files a path group term method s e
  | input {r : Recognizer} {fault : ReadFault} (hmethod : method ∈ Error.methodNames)
      (hr : Loads files a r) (h : content files path = .error fault) :
      IsolateFails files a path group term method .inputFile
        (.io (Files.labelOf path) fault.message)
  | group {r : Recognizer} {text : String} (hmethod : method ∈ Error.methodNames)
      (hr : Loads files a r) (htext : content files path = .ok text) (h : group ∉ r.entityNames) :
      IsolateFails files a path group term method .group (.unknownGroup group r.entityNames)
  | term {r : Recognizer} {text : String} {c : CompiledGroup} (hmethod : method ∈ Error.methodNames)
      (hr : Loads files a r) (htext : content files path = .ok text) (hc : r.group group = .ok c)
      (h : term ∉ c.names) :
      IsolateFails files a path group term method .term (.unknownTerm c.name term c.names)

/-- The first step of a run that fails, with its error. -/
def Fails (files : Files Id) (a : Arguments) : Request → Step → Error → Prop
  | .extract paths group _ => ExtractFails files a paths group
  | .isolate path group term method _ => IsolateFails files a path group term method
  | .groups _ => LoadFails files a

/-! ### Answers -/

/-- The entities of a text, of one group or of all. -/
def entitiesOf (r : Recognizer) (group : Option String) (text : String) : Except Error EntityList :=
  match group with
  | some g => r.extract g text
  | none => .ok (r.extractAll text)

/-- The report tells what was found in the input at the path. -/
def IsReportOn (files : Files Id) (r : Recognizer) (group path : Option String)
    (report : Report.Extraction) : Prop :=
  report.source = path ∧
    ∃ text, content files path = .ok text ∧ entitiesOf r group text = .ok report.entities

/-- What an extraction reports if all its steps succeed. -/
inductive Extracts (files : Files Id) (a : Arguments) (paths : List String)
    (group : Option String) : List Report.Extraction → Prop
  | mk {r : Recognizer} {reports : List Report.Extraction} (hr : Loads files a r)
      (hgroup : IsKnown r group)
      (hreports : List.Forall₂ (IsReportOn files r group) (inputs paths) reports) :
      Extracts files a paths group reports

/-- What an isolation gives if all its steps succeed. -/
inductive Isolates (files : Files Id) (a : Arguments) (path : Option String)
    (group term method : String) : Method → Option Isolated → Prop
  | mk {m : Method} {r : Recognizer} {text : String} {c : CompiledGroup} {result : Option Isolated}
      (hmethod : Method.ofName method = .ok m) (hr : Loads files a r)
      (htext : content files path = .ok text) (hc : r.group group = .ok c)
      (hresult : c.isolate term text m = .ok result) :
      Isolates files a path group term method m result

/-- What a run answers if all its steps succeed. -/
def Answers (files : Files Id) (a : Arguments) : Request → Answer → Prop
  | .extract paths group output => fun answer => ∃ reports,
      Extracts files a paths group reports ∧ answer = ⟨.success, Report.extractions reports output⟩
  | .isolate path group term method output => fun answer => ∃ m result,
      Isolates files a path group term method m result ∧
        answer = ⟨if result.isSome then .success else .noMatch,
          Report.isolation ⟨group, term, m, result⟩ output⟩
  | .groups output => fun answer => ∃ r,
      Loads files a r ∧ answer = ⟨.success, Report.groups r output⟩

/-! ### Inputs -/

section Inputs
variable {group path : Option String} {text : String}

theorem exists_entitiesOf (h : IsKnown r group) (text : String) :
    ∃ es, entitiesOf r group text = .ok es := by
  cases group with
  | none => exact ⟨_, rfl⟩
  | some g =>
    obtain ⟨c, hc⟩ := Recognizer.exists_group_of_mem (h g rfl)
    refine ⟨c.extract text, ?_⟩
    rw [entitiesOf, Recognizer.extract, hc]
    rfl

/-- What comes of one input. -/
def reportOn (files : Files Id) (r : Recognizer) (group path : Option String) :
    Except Error Report.Extraction :=
  (extractOne files r group path).run

theorem reportOn_of_error {fault : ReadFault} (h : content files path = .error fault) :
    reportOn files r group path = .error (.io (Files.labelOf path) fault.message) :=
  run_bind_of_error (run_readSource_of_error h)

theorem reportOn_of_ok {es : EntityList} (htext : content files path = .ok text)
    (hes : entitiesOf r group text = .ok es) : reportOn files r group path = .ok ⟨path, es⟩ := by
  refine (run_bind_of_ok (run_readSource_of_ok htext)).trans ((run_bind_of_ok ?_).trans rfl)
  exact hes

theorem IsReportOn.reportOn_eq {report : Report.Extraction}
    (h : IsReportOn files r group path report) : reportOn files r group path = .ok report := by
  obtain ⟨source, es⟩ := report
  obtain ⟨rfl, text, htext, hes⟩ := h
  exact reportOn_of_ok htext hes

theorem reportOn_cases (h : IsKnown r group) (path : Option String) :
    (∃ report, reportOn files r group path = .ok report ∧ IsReportOn files r group path report) ∨
      ∃ fault, content files path = .error fault ∧
        reportOn files r group path = .error (.io (Files.labelOf path) fault.message) := by
  cases htext : content files path with
  | error fault => exact .inr ⟨fault, rfl, reportOn_of_error htext⟩
  | ok text =>
    obtain ⟨es, hes⟩ := exists_entitiesOf h text
    exact .inl ⟨⟨path, es⟩, reportOn_of_ok htext hes, rfl, text, htext, hes⟩

theorem run_extractEach (files : Files Id) (r : Recognizer) (group : Option String)
    (paths : List String) :
    (extractEach files r group paths).run =
      paths.map fun path => reportOn files r group (some path) := by
  induction paths with
  | nil => rfl
  | cons path paths ih =>
    rw [List.map_cons, ← ih]
    rfl

/-- The inputs are read at once, and standard input if there are none. -/
theorem run_reports (files : Files Id) (race : Race) (r : Recognizer) (group : Option String)
    (paths : List String) (output : Report.Format) :
    (match paths with
      | [] => do
        let reports ← pure [← extractOne files r group none]
        pure ⟨.success, Report.extractions reports output⟩
      | paths => do
        let reports ← extractAll files race r group paths
        pure ⟨.success, Report.extractions reports output⟩ : ExceptT Error Id Answer).run =
      (race.collect ((inputs paths).map (reportOn files r group))).map fun reports =>
        ⟨.success, Report.extractions reports output⟩ := by
  cases paths with
  | nil =>
    rw [inputs, List.map_singleton, Race.collect_singleton]
    cases hfirst : reportOn files r group none with
    | error e => exact run_bind_of_error hfirst
    | ok first => exact run_bind_of_ok hfirst
  | cons path paths =>
    have hall : (extractAll files race r group (path :: paths)).run =
        race.collect (((path :: paths).map some).map (reportOn files r group)) := by
      rw [List.map_map]
      exact congrArg race.collect (run_extractEach files r group (path :: paths))
    show _ = (race.collect (((path :: paths).map some).map (reportOn files r group))).map _
    rw [← hall]
    cases hreports : (extractAll files race r group (path :: paths)).run with
    | error e => exact run_bind_of_error hreports
    | ok reports => exact run_bind_of_ok hreports

theorem run_extract (hr : Loads files a r) (hgroup : IsKnown r group) (race : Race)
    (paths : List String) (output : Report.Format) :
    (extract files race a paths group output).run =
      (race.collect ((inputs paths).map (reportOn files r group))).map fun reports =>
        ⟨.success, Report.extractions reports output⟩ := by
  refine (run_bind_of_ok hr.run_recognizer).trans ?_
  cases group with
  | none => exact (run_bind_of_ok rfl).trans (run_reports files race r none paths output)
  | some g =>
    obtain ⟨c, hc⟩ := Recognizer.exists_group_of_mem (hgroup g rfl)
    exact (run_bind_of_ok hc).trans (run_reports files race r (some g) paths output)

/-! ### Runs end as their steps say -/

/-- An extraction that fails tells the error, or that of another input that cannot be read. -/
theorem ExtractFails.run_eq {paths : List String} (h : ExtractFails files a paths group s e)
    (race : Race) (output : Report.Format) :
    ∃ e', ExtractFails files a paths group s e' ∧ (s ≠ .inputFile → e' = e) ∧
      (extract files race a paths group output).run = .error e' := by
  cases h with
  | load h => exact ⟨e, .load h, fun _ => rfl, run_bind_of_error h.run_recognizer⟩
  | group hr hgroup h =>
    refine ⟨_, .group hr hgroup h, fun _ => rfl, ?_⟩
    subst hgroup
    refine (run_bind_of_ok hr.run_recognizer).trans ?_
    exact run_bind_of_error (Recognizer.group_eq_error h)
  | @input r path fault hr hgroup hpath h =>
    have hmem : .error (.io (Files.labelOf path) fault.message) ∈
        (inputs paths).map (reportOn files r group) :=
      List.mem_map.mpr ⟨path, hpath, reportOn_of_error h⟩
    obtain ⟨e', hmem', htold⟩ := race.exists_collect_eq_error hmem
    obtain ⟨path', hpath', herror⟩ := List.mem_map.mp hmem'
    rcases reportOn_cases hgroup path' with ⟨report, hreport, -⟩ | ⟨fault', h', hreport⟩
    · exact absurd (herror.symm.trans hreport) nofun
    · obtain rfl := Except.error.inj (herror.symm.trans hreport)
      refine ⟨_, .input hr hgroup hpath' h', fun hne => absurd rfl hne, ?_⟩
      rw [run_extract hr hgroup, htold]
      rfl

theorem Extracts.run_eq {paths : List String} {reports : List Report.Extraction}
    (h : Extracts files a paths group reports) (race : Race) (output : Report.Format) :
    (extract files race a paths group output).run =
      .ok ⟨.success, Report.extractions reports output⟩ := by
  obtain @⟨r, _, hr, hgroup, hreports⟩ := h
  have hall : (inputs paths).map (reportOn files r group) = reports.map .ok := by
    rw [← List.forall₂_eq_eq_eq, List.forall₂_map_left_iff, List.forall₂_map_right_iff]
    exact hreports.imp fun _ _ h => h.reportOn_eq
  rw [run_extract hr hgroup, hall, race.collect_map_ok]
  rfl

end Inputs

/-! ### Isolation -/

section Isolation
variable {path : Option String} {group term method : String} {output : Report.Format}

theorem run_isolate {m : Method} (hmethod : Method.ofName method = .ok m) (hr : Loads files a r)
    {text : String} (htext : content files path = .ok text) :
    (isolate files a path group term method output).run =
      (r.isolate group term text m).map fun result =>
        ⟨if result.isSome then .success else .noMatch,
          Report.isolation ⟨group, term, m, result⟩ output⟩ := by
  refine (run_bind_of_ok hmethod).trans ((run_bind_of_ok hr.run_recognizer).trans
    ((run_bind_of_ok (run_readSource_of_ok htext)).trans ?_))
  cases hresult : r.isolate group term text m with
  | error e => exact run_bind_of_error rfl
  | ok result => exact run_bind_of_ok rfl

theorem IsolateFails.run_eq (h : IsolateFails files a path group term method s e)
    (output : Report.Format) :
    (isolate files a path group term method output).run = .error e := by
  cases h with
  | method h => exact run_bind_of_error (Method.ofName_of_notMem h)
  | load hmethod h =>
    obtain ⟨m, hm⟩ := Method.exists_ofName_of_mem hmethod
    exact (run_bind_of_ok hm).trans (run_bind_of_error h.run_recognizer)
  | input hmethod hr h =>
    obtain ⟨m, hm⟩ := Method.exists_ofName_of_mem hmethod
    exact (run_bind_of_ok hm).trans ((run_bind_of_ok hr.run_recognizer).trans
      (run_bind_of_error (run_readSource_of_error h)))
  | group hmethod hr htext h =>
    obtain ⟨m, hm⟩ := Method.exists_ofName_of_mem hmethod
    rw [run_isolate hm hr htext, Recognizer.isolate, Recognizer.group_eq_error h]
    rfl
  | term hmethod hr htext hc h =>
    obtain ⟨m, hm⟩ := Method.exists_ofName_of_mem hmethod
    rw [run_isolate hm hr htext, Recognizer.isolate, hc]
    obtain ⟨g, hg⟩ := hr.exists_ofGroup hc
    exact congrArg (Except.map _) (CompiledGroup.isolate_of_notMem hg h _ _)

theorem Isolates.run_eq {m : Method} {result : Option Isolated}
    (h : Isolates files a path group term method m result) (output : Report.Format) :
    (isolate files a path group term method output).run =
      .ok ⟨if result.isSome then .success else .noMatch,
        Report.isolation ⟨group, term, m, result⟩ output⟩ := by
  obtain ⟨hm, hr, htext, hc, hresult⟩ := h
  rw [run_isolate hm hr htext, Recognizer.isolate, hc]
  exact congrArg (Except.map _) hresult

end Isolation

/-! ### Runs -/

/-- A run that fails tells the error, or that of another input that cannot be read. -/
theorem Fails.run_eq {request : Request} (h : Fails files a request s e) (race : Race) :
    ∃ e', Fails files a request s e' ∧ (s ≠ .inputFile → e' = e) ∧
      (respond files race a request).run = .error e' := by
  cases request with
  | extract paths group output => exact ExtractFails.run_eq h race output
  | isolate path group term method output =>
    exact ⟨e, h, fun _ => rfl, IsolateFails.run_eq h output⟩
  | groups output =>
    exact ⟨e, h, fun _ => rfl, run_bind_of_error (LoadFails.run_recognizer h)⟩

theorem Answers.run_eq {request : Request} {answer : Answer} (h : Answers files a request answer)
    (race : Race) : (respond files race a request).run = .ok answer := by
  cases request with
  | extract paths group output =>
    obtain ⟨reports, h, rfl⟩ := h
    exact h.run_eq race output
  | isolate path group term method output =>
    obtain ⟨m, result, h, rfl⟩ := h
    exact h.run_eq output
  | groups output =>
    obtain ⟨r, h, rfl⟩ := h
    exact run_bind_of_ok h.run_recognizer

end Command
end Gazetteer
