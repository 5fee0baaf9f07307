import Gazetteer.Proofs.Text.Lines
import Gazetteer.Report.Text

/-! Reading back lines of columns.

A report is read back by splitting it at line feeds, each line at tabs, and undoing the escapes of
each column (`Report.Text.records?`). This gives what was meant exactly if each column that was
printed reads back on its own (`Report.Text.records?_join_iff`). Escaped texts do, and so do
numbers. -/
namespace Gazetteer.Report.Text

/-! ### Reading -/

/-- Undoes escapes. A backslash before any other character stands for itself. -/
def unescape : List Char → List Char
  | '\\' :: '\\' :: cs => '\\' :: unescape cs
  | '\\' :: 't' :: cs => '\t' :: unescape cs
  | '\\' :: 'n' :: cs => '\n' :: unescape cs
  | '\\' :: 'r' :: cs => '\r' :: unescape cs
  | c :: cs => c :: unescape cs
  | [] => []

/-- The columns of a line. -/
def columnsOf (line : List Char) : List String :=
  (line.splitOn '\t').map fun column => .ofList (unescape column)

/-- The records of a text, if its last line is ended. -/
def records? (text : String) : Option (List (List String)) :=
  let lines := text.toList.splitOn '\n'
  if lines.getLast? = some [] then some (lines.dropLast.map columnsOf) else none

/-- The column that was printed is one column of one line, and it stands for what was meant. -/
structure ReadsAs (printed meant : String) : Prop where
  tab : '\t' ∉ printed.toList
  newline : '\n' ∉ printed.toList
  text : String.ofList (unescape printed.toList) = meant

/-! ### Columns that read back -/

theorem unescape_of_notMem {cs : List Char} (h : '\\' ∉ cs) : unescape cs = cs := by
  fun_induction unescape cs with
  | case1 | case2 | case3 | case4 => exact absurd (List.mem_cons_self ..) h
  | case5 c cs _ _ _ _ ih => rw [ih (List.not_mem_of_not_mem_cons h)]
  | case6 => rfl

theorem unescape_escapeChar (c : Char) (cs : List Char) :
    unescape (escapeChar c ++ cs) = c :: unescape cs := by
  unfold escapeChar
  split
  · rfl
  · rfl
  · rfl
  · rfl
  · rename_i hslash _ _ _
    rw [List.singleton_append, unescape]
    all_goals
      rintro _ rfl
      exact absurd rfl hslash

theorem unescape_escape (cs : List Char) : unescape (cs.flatMap escapeChar) = cs := by
  induction cs with
  | nil => rfl
  | cons c cs ih => rw [List.flatMap_cons, unescape_escapeChar, ih]

theorem mem_escapeChar {c d : Char} (h : d ∈ escapeChar c) : d ≠ '\t' ∧ d ≠ '\n' ∧ d ≠ '\r' := by
  unfold escapeChar at h
  split at h
  case h_5 htab hnewline hreturn =>
    obtain rfl := List.mem_singleton.mp h
    exact ⟨htab, hnewline, hreturn⟩
  all_goals
    simp only [List.mem_cons, List.not_mem_nil, or_false] at h
    rcases h with rfl | rfl <;> decide

theorem escapeChar_of_not {c : Char} (h : isEscaped c = false) : escapeChar c = [c] := by
  unfold escapeChar
  split
  case h_5 => rfl
  all_goals exact absurd h (by decide)

theorem escapeEach_of_not {s : String} (h : ∀ c ∈ s.toList, isEscaped c = false) :
    escapeEach s = s := by
  have hsame : ∀ cs : List Char, (∀ c ∈ cs, isEscaped c = false) → cs.flatMap escapeChar = cs := by
    intro cs
    induction cs with
    | nil => exact fun _ => rfl
    | cons c cs ih =>
      intro h
      rw [List.forall_mem_cons] at h
      rw [List.flatMap_cons, escapeChar_of_not h.1, ih h.2, List.singleton_append]
  rw [escapeEach, hsame _ h, String.ofList_toList]

/-- Taking a text as it is where nothing is escaped makes no difference. -/
theorem escape_eq (s : String) : escape s = escapeEach s := by
  unfold escape
  split
  · rfl
  · rename_i hnone
    refine (escapeEach_of_not fun c hc => ?_).symm
    exact Bool.eq_false_iff.mpr fun hescaped => hnone (List.any_eq_true.mpr ⟨c, hc, hescaped⟩)

theorem mem_escape {s : String} {d : Char} (h : d ∈ (escape s).toList) :
    d ≠ '\t' ∧ d ≠ '\n' ∧ d ≠ '\r' := by
  rw [escape_eq, escapeEach, String.toList_ofList] at h
  obtain ⟨c, -, hd⟩ := List.mem_flatMap.mp h
  exact mem_escapeChar hd

theorem readsAs_escape (s : String) : ReadsAs (escape s) s := by
  refine ⟨fun h => (mem_escape h).1 rfl, fun h => (mem_escape h).2.1 rfl, ?_⟩
  rw [escape_eq, escapeEach, String.toList_ofList, unescape_escape, String.ofList_toList]

theorem readsAs_toString (n : Nat) : ReadsAs (toString n) (toString n) := by
  refine ⟨Text.notMem_toString (by decide) n, Text.notMem_toString (by decide) n, ?_⟩
  rw [unescape_of_notMem (Text.notMem_toString (by decide) n), String.ofList_toList]

/-! ### Splitting -/

section
variable {x : Char} {cells : List (List Char)}

theorem length_splitOn (x : Char) (cs : List Char) :
    (cs.splitOn x).length = cs.count x + 1 := by
  induction cs with
  | nil => rfl
  | cons c cs ih =>
    rw [List.splitOn_cons_eq_if_modifyHead, List.count_cons]
    split
    · rw [List.length_cons, ih]
    · rw [List.length_modifyHead, ih]

theorem count_intercalate (x y : Char) (c : List Char) (cells : List (List Char)) :
    ([x].intercalate (c :: cells)).count y =
      (c :: cells).flatten.count y + [x].count y * cells.length := by
  induction cells generalizing c with
  | nil => simp
  | cons c' cells ih =>
    have hflatten : (c :: c' :: cells).flatten.count y =
        c.count y + (c' :: cells).flatten.count y := List.count_append
    rw [List.intercalate_cons_cons, List.count_append, List.count_append, ih c', hflatten,
      List.length_cons, Nat.mul_succ]
    omega

theorem flatten_count_eq_zero_iff :
    cells.flatten.count x = 0 ↔ ∀ c ∈ cells, x ∉ c := by
  rw [List.count_eq_zero, List.mem_flatten]
  exact ⟨fun h d hd hx => h ⟨d, hd, hx⟩, fun h ⟨d, hd, hx⟩ => h d hd hx⟩

/-- Cells are found again by splitting if no cell holds the mark between them; otherwise there are
too many. -/
theorem length_splitOn_intercalate (hne : cells ≠ []) :
    (([x].intercalate cells).splitOn x).length = cells.length ↔ ∀ c ∈ cells, x ∉ c := by
  obtain ⟨c, rest, rfl⟩ := List.exists_cons_of_ne_nil hne
  rw [← flatten_count_eq_zero_iff, length_splitOn, count_intercalate, List.length_cons,
    List.count_singleton_self]
  omega

/-- Another character than the mark is in the whole if it is in a cell. -/
theorem notMem_intercalate_iff {y : Char} (hy : y ≠ x) (hne : cells ≠ []) :
    y ∉ [x].intercalate cells ↔ ∀ c ∈ cells, y ∉ c := by
  obtain ⟨c, rest, rfl⟩ := List.exists_cons_of_ne_nil hne
  have hmark : [x].count y = 0 := List.count_eq_zero.mpr (by simpa using hy)
  rw [← flatten_count_eq_zero_iff, ← List.count_eq_zero, count_intercalate, hmark, Nat.zero_mul,
    Nat.add_zero]

theorem columnsOf_eq_iff {meant : List String} (hne : cells ≠ [])
    (hlength : meant.length = cells.length) :
    columnsOf (['\t'].intercalate cells) = meant ↔
      (∀ c ∈ cells, '\t' ∉ c) ∧ cells.map (fun c => String.ofList (unescape c)) = meant := by
  unfold columnsOf
  constructor
  · intro h
    have htabs : ∀ c ∈ cells, '\t' ∉ c := by
      rw [← length_splitOn_intercalate hne, ← hlength, ← h, List.length_map]
    rw [List.splitOn_intercalate '\t' htabs hne] at h
    exact ⟨htabs, h⟩
  · rintro ⟨htabs, h⟩
    rw [List.splitOn_intercalate '\t' htabs hne, h]

theorem records?_eq_some_iff {lines : List (List Char)} {records : List (List String)}
    (hlength : records.length = lines.length) :
    records? (.ofList (['\n'].intercalate (lines ++ [[]]))) = some records ↔
      (∀ l ∈ lines, '\n' ∉ l) ∧ lines.map columnsOf = records := by
  have hne : lines ++ [[]] ≠ [] := by simp
  have hmem : (∀ l ∈ lines ++ [[]], '\n' ∉ l) ↔ ∀ l ∈ lines, '\n' ∉ l := by
    rw [List.forall_mem_append]
    simp
  have hsplit (h : ∀ l ∈ lines, '\n' ∉ l) :
      (['\n'].intercalate (lines ++ [[]])).splitOn '\n' = lines ++ [[]] :=
    List.splitOn_intercalate '\n' (hmem.mpr h) hne
  unfold records?
  rw [String.toList_ofList]
  constructor
  · intro h
    simp only [Option.ite_none_right_eq_some, Option.some.injEq] at h
    have hlines : ∀ l ∈ lines, '\n' ∉ l := by
      rw [← hmem, ← length_splitOn_intercalate hne, List.length_append, List.length_singleton,
        ← hlength, ← h.2, List.length_map, List.length_dropLast]
      exact (Nat.sub_add_cancel (List.length_pos_iff.mpr (List.splitOn_ne_nil _ _))).symm
    rw [hsplit hlines, List.dropLast_concat] at h
    exact ⟨hlines, h.2⟩
  · rintro ⟨hlines, h⟩
    simp only [hsplit hlines, List.getLast?_concat, List.dropLast_concat, h, if_true]

end

/-! ### Records -/

theorem toList_line (row : List String) :
    (line row).toList = ['\t'].intercalate (row.map String.toList) ++ ['\n'] := by
  rw [line, String.toList_append, String.toList_intercalate]
  rfl

theorem toList_join_line (rows : List (List String)) :
    (String.join (rows.map line)).toList = ['\n'].intercalate
      ((rows.map fun row => ['\t'].intercalate (row.map String.toList)) ++ [[]]) := by
  rw [← Text.flatMap_append_eq_intercalate, List.append_nil, String.toList_join, List.flatMap_map,
    List.flatMap_map]
  simp only [toList_line]

/-- Rows of printed columns are read back as what was meant exactly if each column is. -/
theorem records?_join_iff {rows : List (List (String × String))} (hne : ∀ row ∈ rows, row ≠ []) :
    records? (String.join (rows.map fun row => line (row.map Prod.fst))) =
        some (rows.map fun row => row.map Prod.snd) ↔
      ∀ row ∈ rows, ∀ column ∈ row, ReadsAs column.1 column.2 := by
  let cells (row : List (String × String)) : List (List Char) := row.map fun p => p.1.toList
  let text (row : List (String × String)) : List Char := ['\t'].intercalate (cells row)
  have htext : (String.join (rows.map fun row => line (row.map Prod.fst))) =
      .ofList (['\n'].intercalate (rows.map text ++ [[]])) := by
    rw [← String.ofList_toList (s := String.join _), ← Function.comp_def line, ← List.map_map,
      toList_join_line, List.map_map]
    simp only [text, cells, Function.comp_def, List.map_map]
  have hrow : ∀ row ∈ rows, ('\n' ∉ text row ∧ columnsOf (text row) = row.map Prod.snd ↔
      ∀ column ∈ row, ReadsAs column.1 column.2) := by
    intro row hmem
    have hcells : cells row ≠ [] := by simpa [cells] using hne row hmem
    rw [notMem_intercalate_iff (by decide) hcells, columnsOf_eq_iff hcells (by simp [cells]),
      List.forall_mem_map, List.forall_mem_map, List.map_map, List.map_inj_left]
    exact ⟨fun ⟨hn, ht, hs⟩ c hc => ⟨ht c hc, hn c hc, hs c hc⟩,
      fun h => ⟨fun c hc => (h c hc).newline, fun c hc => (h c hc).tab, fun c hc => (h c hc).text⟩⟩
  rw [htext, records?_eq_some_iff (by simp), List.map_map, List.map_inj_left, List.forall_mem_map]
  constructor
  · rintro ⟨hlines, hcolumns⟩ row hmem
    exact (hrow row hmem).mp ⟨hlines row hmem, hcolumns row hmem⟩
  · intro h
    exact ⟨fun row hmem => ((hrow row hmem).mpr (h row hmem)).1,
      fun row hmem => ((hrow row hmem).mpr (h row hmem)).2⟩

end Gazetteer.Report.Text
