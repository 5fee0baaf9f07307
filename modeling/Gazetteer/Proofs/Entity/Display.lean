import Mathlib.Logic.Function.Basic
import Gazetteer.Entity.List
import Gazetteer.Proofs.Text.Lines
import Gazetteer.Proofs.Text.Quoted

/-! Listings of entities.

The texts of an entity are quoted, so its display says what they are, whatever they hold, and stays
on one line. The lines of a listing are then a frame around one line for each entity
(`EntityList.lines_display`), and no two lists are displayed alike
(`EntityList.listsEntities`). -/
namespace Gazetteer

/-! ### Entities -/

namespace NamedEntity

theorem toList_display (e : NamedEntity) :
    e.display.toList = "NamedEntity(name=".toList ++ ((Text.quoted e.name).toList ++
      (", entity=".toList ++ ((Text.quoted e.entity).toList ++ (", string=".toList ++
        ((Text.quoted e.string).toList ++ (", span=(".toList ++ ((toString e.span.start).toList ++
          (", ".toList ++ ((toString e.span.stop).toList ++ "))".toList))))))))) := by
  unfold display
  simp only [String.toList_append, List.append_assoc]

/-- The display of an entity says what each of its parts is. -/
theorem display_injective : Function.Injective display := by
  intro e e' h
  have h := congrArg String.toList h
  rw [toList_display, toList_display] at h
  obtain ⟨hname, h⟩ := Text.quoted_append_inj (List.append_cancel_left h)
  obtain ⟨hentity, h⟩ := Text.quoted_append_inj (List.append_cancel_left h)
  obtain ⟨hstring, h⟩ := Text.quoted_append_inj (List.append_cancel_left h)
  obtain ⟨hstart, h⟩ := Text.toString_append_inj (by decide) (List.append_cancel_left h)
  obtain ⟨hstop, -⟩ := Text.toString_append_inj (by decide) (List.cons.inj h).2
  obtain ⟨name, entity, string, ⟨start, stop⟩⟩ := e
  obtain ⟨name', entity', string', ⟨start', stop'⟩⟩ := e'
  obtain rfl : name = name' := hname
  obtain rfl : entity = entity' := hentity
  obtain rfl : string = string' := hstring
  obtain rfl : start = start' := hstart
  obtain rfl : stop = stop' := hstop
  rfl

theorem newline_notMem_display (e : NamedEntity) : '\n' ∉ e.display.toList := by
  have hnumber := Text.notMem_toString (c := '\n') (by decide)
  have hquoted := Text.newline_notMem_quoted
  rw [toList_display]
  simp only [List.mem_append, not_or]
  exact ⟨by decide, hquoted _, by decide, hquoted _, by decide, hquoted _, by decide, hnumber _,
    by decide, hnumber _, by decide⟩

end NamedEntity

/-! ### Lists -/

namespace EntityList

/-- The line of an entity in a listing. -/
def entryLine (position : Nat) (e : NamedEntity) : String :=
  "    [" ++ toString position ++ "] " ++ e.display

theorem newline_notMem_entryLine (position : Nat) (e : NamedEntity) :
    '\n' ∉ (entryLine position e).toList := by
  have hnumber := Text.notMem_toString (c := '\n') (by decide) position
  unfold entryLine
  simp only [String.toList_append, List.mem_append, not_or]
  exact ⟨⟨⟨by decide, hnumber⟩, by decide⟩, e.newline_notMem_display⟩

theorem entryLine_injective (position : Nat) : Function.Injective (entryLine position) := by
  intro e e' h
  refine NamedEntity.display_injective (String.toList_inj.mp ?_)
  have h := congrArg String.toList h
  simpa [entryLine] using h

theorem flatMap_entries (position : Nat) (l : EntityList) :
    (entries position l).flatMap String.toList =
      ((l.mapIdx fun i => entryLine (position + i)).map String.toList).flatMap (· ++ ['\n']) := by
  induction l generalizing position with
  | nil => rfl
  | cons e l ih =>
    have hlater : (fun i => entryLine (position + (i + 1))) =
        fun i => entryLine (position + 1 + i) :=
      funext fun i => by rw [Nat.add_assoc, Nat.add_comm i]
    rw [entries, List.flatMap_cons, ih, List.mapIdx_cons, hlater, List.map_cons, List.flatMap_cons,
      String.toList_append]
    rfl

/-- The lines of a listing: one for each entity, in a frame of two. -/
theorem lines_display {l : EntityList} (h : l ≠ []) :
    Text.lines l.display = "NamedEntityList(" :: l.mapIdx entryLine ++ [")"] := by
  refine Text.lines_flatMap ?_ (by decide) ?_
  · refine List.forall_mem_cons.mpr ⟨by decide, fun line hline => ?_⟩
    obtain ⟨i, hi, rfl⟩ := List.mem_mapIdx.mp hline
    exact newline_notMem_entryLine i _
  · have hentries := flatMap_entries 0 l
    simp only [Nat.zero_add] at hentries
    rw [display, if_neg (by simpa using h), String.toList_append, String.toList_append,
      String.toList_join, hentries]
    rfl

theorem display_nil_ne {l : EntityList} (h : l ≠ []) : display [] ≠ l.display := by
  intro heq
  have hlines := congrArg List.length ((congrArg Text.lines heq).trans (lines_display h))
  have hone : (Text.lines (display [])).length = 1 := by decide +kernel
  rw [hone] at hlines
  simp at hlines

/-- No two lists are displayed alike. -/
theorem display_injective : Function.Injective display := by
  intro l l' h
  by_cases hl : l = []
  · subst hl
    by_contra hne
    exact display_nil_ne (Ne.symm hne) h
  by_cases hl' : l' = []
  · subst hl'
    exact absurd h.symm (display_nil_ne hl)
  have hlines := congrArg Text.lines h
  rw [lines_display hl, lines_display hl', List.cons_append, List.cons_append] at hlines
  have hentries := List.append_cancel_right (List.cons.inj hlines).2
  refine List.ext_getElem? fun i => ?_
  have hi := congrArg (·[i]?) hentries
  simp only [List.getElem?_mapIdx] at hi
  exact Option.map_injective (entryLine_injective i) hi

/-- A list can be told from its display. If it is not empty, each entity has a line of its own. -/
theorem listsEntities :
    Function.Injective display ∧
    ∀ l : EntityList, l ≠ [] →
      (Text.lines l.display).length = l.length + 2 ∧
      ∀ i e, l[i]? = some e → (Text.lines l.display)[i + 1]? = some (entryLine i e) := by
  refine ⟨display_injective, fun l hne => ?_⟩
  rw [lines_display hne]
  refine ⟨by simp, fun i e he => ?_⟩
  obtain ⟨hi, rfl⟩ := List.getElem?_eq_some_iff.mp he
  rw [List.cons_append, List.getElem?_cons_succ, List.getElem?_append_left (by simpa using hi)]
  simp [hi]

/-- Texts that look like entries stay in the lines of their own entities. -/
theorem listsEntities_of_lookalikes :
    let e : NamedEntity := ⟨"a\", entity=\"b", "\\", ")\n    [1] \"", ⟨0, 9⟩⟩
    [e, e] ≠ [] ∧ (Text.lines (display [e, e])).length = 4 ∧ [e, e][1]? = some e ∧
      (Text.lines (display [e, e]))[2]? = some (entryLine 1 e) := by
  intro e
  obtain ⟨hlength, hline⟩ := listsEntities.2 [e, e] (by simp)
  exact ⟨by simp, hlength, rfl, hline 1 e rfl⟩

end EntityList
end Gazetteer
