import Mathlib.Data.List.Basic
import Gazetteer.Proofs.Report.Columns
import Gazetteer.Report.Document

/-! The records of a report.

A report is meant to hold one record for each entity, and a listing of groups one for each term.
Only the texts that were found are escaped: names and labels are printed as they are. So what is
printed reads back as the records that are meant exactly if every name and label stands for itself
in a column (`Report.Text.readsBack_iff`). A tab in the name of a group makes one column more
(`Report.Text.column_more_for_tab`). -/
namespace Gazetteer.Report.Text

instance (printed meant : String) : Decidable (ReadsAs printed meant) :=
  decidable_of_iff ('\t' ∉ printed.toList ∧ '\n' ∉ printed.toList ∧
      String.ofList (unescape printed.toList) = meant)
    ⟨fun ⟨tab, newline, text⟩ => ⟨tab, newline, text⟩, fun h => ⟨h.tab, h.newline, h.text⟩⟩

/-- A text that reads back from a column without having been escaped. -/
abbrev StandsForItself (s : String) : Prop := ReadsAs s s

/-! ### What is meant -/

/-- The record of an entity, with the label of the input if there are several inputs. -/
def entityRecord (severalInputs : Bool) (label : String) (e : NamedEntity) : List String :=
  (if severalInputs then [label] else []) ++
    [e.entity, e.name, toString e.span.start, toString e.span.stop, e.string]

def entityRecords (reports : List Extraction) : List (List String) :=
  reports.flatMap fun report =>
    report.entities.map (entityRecord (reports.length > 1) report.label)

def termRecords (r : Recognizer) : List (List String) :=
  r.groups.flatMap fun g => g.names.map fun term => [g.name, g.flags.display, term]

/-! ### What is printed -/

/-- The columns of an entity as they are printed, each with what it is meant to say. -/
def entityCells (severalInputs : Bool) (label : String) (e : NamedEntity) :
    List (String × String) :=
  (if severalInputs then [(label, label)] else []) ++
    [(e.entity, e.entity), (e.name, e.name), (toString e.span.start, toString e.span.start),
      (toString e.span.stop, toString e.span.stop), (escape e.string, e.string)]

def termCells (g : CompiledGroup) (term : String) : List (String × String) :=
  [(g.name, g.name), (g.flags.display, g.flags.display), (term, term)]

theorem extractions_eq (reports : List Extraction) :
    Text.extractions reports =
      String.join ((reports.flatMap fun report =>
        report.entities.map (entityCells (reports.length > 1) report.label)).map
          fun row => line (row.map Prod.fst)) := by
  unfold Text.extractions
  refine congrArg String.join ?_
  rw [List.map_flatMap]
  refine List.flatMap_congr fun report _ => ?_
  rw [List.map_map]
  refine List.map_congr_left fun e _ => ?_
  by_cases h : reports.length > 1
  · simp [entityCells, entityColumns, h]
  · simp [entityCells, entityColumns, h]

theorem entityRecords_eq (reports : List Extraction) :
    entityRecords reports =
      (reports.flatMap fun report =>
        report.entities.map (entityCells (reports.length > 1) report.label)).map
          fun row => row.map Prod.snd := by
  unfold entityRecords
  rw [List.map_flatMap]
  refine List.flatMap_congr fun report _ => ?_
  rw [List.map_map]
  refine List.map_congr_left fun e _ => ?_
  by_cases h : reports.length > 1
  · simp [entityCells, entityRecord, h]
  · simp [entityCells, entityRecord, h]

theorem readsAs_entityCells_iff {severalInputs : Bool} {label : String} {e : NamedEntity} :
    (∀ column ∈ entityCells severalInputs label e, ReadsAs column.1 column.2) ↔
      StandsForItself e.entity ∧ StandsForItself e.name ∧
        (severalInputs → StandsForItself label) := by
  have hstart := readsAs_toString e.span.start
  have hstop := readsAs_toString e.span.stop
  have hstring := readsAs_escape e.string
  cases severalInputs with
  | false =>
    simp only [entityCells, Bool.false_eq_true, if_false, List.nil_append, List.forall_mem_cons,
      List.not_mem_nil, hstart, hstop, hstring, false_implies, implies_true, and_true]
  | true =>
    simp only [entityCells, if_true, List.cons_append, List.nil_append, List.forall_mem_cons,
      List.not_mem_nil, hstart, hstop, hstring, false_implies, true_implies, implies_true, and_true]
    exact ⟨fun ⟨hlabel, hentity, hname⟩ => ⟨hentity, hname, hlabel⟩,
      fun ⟨hentity, hname, hlabel⟩ => ⟨hlabel, hentity, hname⟩⟩

/-- The characters that mean something else in a column. -/
def marks : List Char := ['\t', '\n', '\\']

theorem standsForItself_of_notMem {s : String} (h : ∀ c ∈ marks, c ∉ s.toList) :
    StandsForItself s := by
  refine ⟨h '\t' (by decide), h '\n' (by decide), ?_⟩
  rw [unescape_of_notMem (h '\\' (by decide)), String.ofList_toList]

/-- The names of flags stand for themselves, and so do the bars between them. -/
theorem standsForItself_display (f : Flags) : StandsForItself f.display := by
  refine standsForItself_of_notMem fun c hc => ?_
  unfold Flags.display
  split
  · simp only [marks, List.mem_cons, List.not_mem_nil, or_false] at hc
    rcases hc with rfl | rfl | rfl <;> decide
  · rename_i hne
    have hbar : c ≠ '|' := by
      rintro rfl
      exact absurd hc (by decide)
    rw [String.toList_intercalate]
    refine (notMem_intercalate_iff hbar (by simpa using hne)).mpr (List.forall_mem_map.mpr ?_)
    refine List.forall_mem_map.mpr fun n _ => ?_
    simp only [marks, List.mem_cons, List.not_mem_nil, or_false] at hc
    rcases hc with rfl | rfl | rfl <;> cases n <;> decide

theorem readsAs_termCells_iff {g : CompiledGroup} {term : String} :
    (∀ column ∈ termCells g term, ReadsAs column.1 column.2) ↔
      StandsForItself g.name ∧ StandsForItself term := by
  have hflags := standsForItself_display g.flags
  simp [termCells, hflags]

/-! ### Reading back -/

/-- A report reads back as one record for each entity, and a listing of groups as one for each term,
exactly if the names and labels that are printed stand for themselves. -/
theorem readsBack_iff (reports : List Extraction) (r : Recognizer) :
    (records? (Report.extractions reports .text) = some (entityRecords reports) ↔
      ∀ report ∈ reports, ∀ e ∈ report.entities,
        StandsForItself e.entity ∧ StandsForItself e.name ∧
          (1 < reports.length → StandsForItself report.label)) ∧
    (records? (Report.groups r .text) = some (termRecords r) ↔
      ∀ g ∈ r.groups, ∀ term ∈ g.names, StandsForItself g.name ∧ StandsForItself term) := by
  constructor
  · show records? (Text.extractions reports) = _ ↔ _
    rw [extractions_eq, entityRecords_eq, records?_join_iff]
    · simp only [List.forall_mem_flatMap, List.forall_mem_map, readsAs_entityCells_iff,
        decide_eq_true_eq, gt_iff_lt]
    · simp only [List.forall_mem_flatMap, List.forall_mem_map]
      intro report _ e _
      simp [entityCells]
  · have hprinted : Text.groups r = String.join ((r.groups.flatMap fun g =>
        g.names.map (termCells g)).map fun row => line (row.map Prod.fst)) := by
      simp only [Text.groups, List.map_flatMap, List.map_map]
      rfl
    have hmeant : termRecords r = (r.groups.flatMap fun g =>
        g.names.map (termCells g)).map fun row => row.map Prod.snd := by
      simp only [termRecords, List.map_flatMap, List.map_map]
      rfl
    show records? (Text.groups r) = _ ↔ _
    rw [hprinted, hmeant, records?_join_iff]
    · simp only [List.forall_mem_flatMap, List.forall_mem_map, readsAs_termCells_iff]
    · simp only [List.forall_mem_flatMap, List.forall_mem_map]
      intro g _ term _
      simp [termCells]

/-- The texts that were found and labels without marks read back from several inputs. -/
example :
    let reports : List Extraction := [⟨some "a.txt", [⟨"x", "g", "a\tb\\", ⟨0, 4⟩⟩]⟩, ⟨none, []⟩]
    records? (Report.extractions reports .text) =
      some [["a.txt", "g", "x", "0", "4", "a\tb\\"]] := by
  decide +kernel

/-- A tab in the name of a group makes one column more. -/
theorem column_more_for_tab :
    ¬ ∀ reports, records? (Report.extractions reports .text) = some (entityRecords reports) := by
  intro h
  have hread := h [⟨none, [⟨"x", "a\tb", "x", ⟨0, 1⟩⟩]⟩]
  exact absurd hread (by decide +kernel)

end Gazetteer.Report.Text
