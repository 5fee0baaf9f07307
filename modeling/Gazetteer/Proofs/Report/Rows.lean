import Mathlib.Logic.Function.Basic
import Gazetteer.Proofs.Report.Columns
import Gazetteer.Report.Document

/-! Rows of captures as lines of columns.

Every cell of a row is escaped, so the rows that are printed are read back from the lines and
columns of the text, whatever stands in the cells (`Report.Text.rowsReadBack`). Only a row without
cells is lost: its line is that of one empty cell. -/
namespace Gazetteer.Report.Text

/-! ### Escapes -/

theorem escape_injective : Function.Injective escape := by
  intro s t h
  rw [← (readsAs_escape s).text, h, (readsAs_escape t).text]

theorem length_escapeChar {c : Char} (h : isEscaped c) : (escapeChar c).length = 2 := by
  simp only [isEscaped, Bool.or_eq_true, beq_iff_eq] at h
  rcases h with ((rfl | rfl) | rfl) | rfl <;> rfl

theorem length_le_flatMap_escapeChar (cs : List Char) :
    cs.length ≤ (cs.flatMap escapeChar).length := by
  induction cs with
  | nil => exact Nat.le_refl _
  | cons c cs ih =>
    have hchar : 1 ≤ (escapeChar c).length := by
      cases h : isEscaped c with
      | true =>
        rw [length_escapeChar h]
        decide
      | false =>
        rw [escapeChar_of_not h]
        exact Nat.le_refl 1
    rw [List.flatMap_cons, List.length_cons, List.length_append]
    omega

/-- The texts that escaping leaves as they are are those in which nothing is escaped. -/
theorem escapeEach_eq_self_iff {s : String} :
    escapeEach s = s ↔ ∀ c ∈ s.toList, isEscaped c = false := by
  refine ⟨fun h c hc => ?_, escapeEach_of_not⟩
  by_contra hescaped
  obtain ⟨before, after, hs⟩ := List.append_of_mem hc
  -- Each escape makes the text longer, and nothing makes it shorter.
  have hlength : (escapeEach s).toList.length = s.toList.length := by rw [h]
  have hbefore := length_le_flatMap_escapeChar before
  have hafter := length_le_flatMap_escapeChar after
  have hchar := length_escapeChar (by simpa using hescaped)
  rw [escapeEach, String.toList_ofList, hs, List.flatMap_append, List.flatMap_cons,
    List.length_append, List.length_append, List.length_append, List.length_cons] at hlength
  omega

/-! ### Rows -/

theorem isolated_rows (rows : List (List String)) :
    isolated (some (.rows rows)) =
      String.join ((rows.map fun row => row.map fun cell => (escape cell, cell)).map
        fun row => line (row.map Prod.fst)) := by
  simp only [isolated, List.map_map, Function.comp_def]

theorem records?_rows {rows : List (List String)} (h : ∀ row ∈ rows, row ≠ []) :
    records? (isolated (some (.rows rows))) = some rows := by
  let cells := rows.map fun row => row.map fun cell => (escape cell, cell)
  have hcells : ∀ row ∈ cells, row ≠ [] := by simpa [cells] using h
  have hreads : ∀ row ∈ cells, ∀ column ∈ row, ReadsAs column.1 column.2 :=
    List.forall_mem_map.mpr fun row _ => List.forall_mem_map.mpr fun cell _ => readsAs_escape cell
  rw [isolated_rows, (records?_join_iff hcells).mpr hreads]
  simp [cells, Function.comp_def]

/-- No line has no column. -/
theorem ne_nil_of_records? {text : String} {records : List (List String)}
    (h : records? text = some records) : ∀ row ∈ records, row ≠ [] := by
  unfold records? at h
  simp only [Option.ite_none_right_eq_some, Option.some.injEq] at h
  rw [← h.2]
  refine List.forall_mem_map.mpr fun l _ => ?_
  simp [columnsOf]

/-- Rows read back from the text that shows them if each has a cell. Escaping is undone by reading,
leaves no separator in a cell, and is the same character by character as with the texts that need
none taken as they are. -/
theorem rowsReadBack :
    (∀ group term method rows,
      records? (Report.isolation ⟨group, term, method, some (.rows rows)⟩ .text) = some rows ↔
        ∀ row ∈ rows, row ≠ []) ∧
    Function.Injective escape ∧
    (∀ s, ∀ c ∈ (escape s).toList, c ≠ '\t' ∧ c ≠ '\n' ∧ c ≠ '\r') ∧
    ∀ s, escape s = escapeEach s ∧
      (escapeEach s = s ↔ ∀ c ∈ s.toList, isEscaped c = false) := by
  refine ⟨fun group term method rows => ?_, escape_injective, fun s c hc => mem_escape hc,
    fun s => ⟨escape_eq s, escapeEach_eq_self_iff⟩⟩
  exact ⟨ne_nil_of_records?, records?_rows⟩

/-- Backslashes before letters, line ends and empty cells are told apart. -/
theorem rowsReadBack_of_marks :
    let rows := [["", "\\t", "\t"], ["\\\\n", "\\\n", ""]]
    (∀ row ∈ rows, row ≠ []) ∧
      records? (Report.isolation ⟨"g", "a", .findall, some (.rows rows)⟩ .text) = some rows ∧
      't' ∈ (escape "\t").toList ∧ 't' ≠ '\t' := by
  intro rows
  have hrows : ∀ row ∈ rows, row ≠ [] := by decide
  have hmem : 't' ∈ (escape "\t").toList := by decide +kernel
  exact ⟨hrows, (rowsReadBack.1 "g" "a" .findall rows).mpr hrows, hmem,
    (rowsReadBack.2.2.1 "\t" 't' hmem).1⟩

end Gazetteer.Report.Text
