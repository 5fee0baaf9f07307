import Gazetteer.Proofs.Entity.Lists
import Gazetteer.Proofs.Entity.Written
import Gazetteer.Proofs.Json.RoundTrip
import Gazetteer.Proofs.Recognizer.Merge
import Gazetteer.Report.Document

/-! Entities in JSON.

A list of entities comes from JSON or from what recognizers find, and either way its entities are
consistent (`EntityList.IsReachable.isConsistent`). Nothing else is asked of an entity that is read.
So a list that is printed is read back as the same list, on its own and in the document of a report
(`Report.readsBackEntities`), as long as its offsets are machine words. -/
namespace Gazetteer

/-! ### Values of entities -/

theorem Span.ofJson_toJson (s : Span) : ofJson s.toJson = .ok s :=
  (ofJson_object_eq_ok_iff (by simp)).mpr s.isWritten_toJson

namespace NamedEntity
variable {e : NamedEntity}

theorem ofJson_toJson (h : e.IsConsistent) : ofJson e.toJson = .ok e := by
  have hspan := Span.ofJson_toJson e.span
  have hparts := ofParts_eq_ok_iff.mpr ⟨rfl, h⟩
  simp only [toJson, ofJson, List.foldlM_cons, List.foldlM_nil, Draft.addMember, Json.asString,
    hspan]
  exact hparts

/-- The members of an entity may come in the order of their names. -/
theorem ofJson_sorted_toJson (h : e.IsConsistent) : ofJson e.toJson.sorted = .ok e :=
  ofJson_sorted_eq_ok_iff.mpr ⟨isWritten_object e.span.isWritten_toJson, h⟩

/-- An entity that a group has found has the length of its text. -/
theorem isConsistent_of_isFound {g : TermGroup} {text : String}
    (h : CompiledGroup.IsFound g text e) : e.IsConsistent := by
  obtain ⟨before, after, -, hstart, hstop⟩ := h.split
  rw [Text.byteLength_append, Text.byteLength_toList, ← hstart] at hstop
  refine ⟨h.within.1, ?_⟩
  rw [Span.length, hstop, Nat.add_sub_cancel_left]

/-- The offsets of an entity are machine words. -/
def FitsWords (e : NamedEntity) : Prop := e.span.stop < UInt64.size

theorem isReadable_toJson (h : e.IsConsistent) (hwords : e.FitsWords) :
    e.toJson.IsReadable 2 := by
  have hword (n : Nat) (hn : n ≤ e.span.stop) : Json.IsWord n := by
    have hsize : (UInt64.size : Int) = Decimal.power 2 64 := rfl
    have hlt : (n : Int) < UInt64.size := Int.ofNat_lt.mpr (Nat.lt_of_le_of_lt hn hwords)
    exact ⟨by omega, hsize ▸ hlt⟩
  exact ⟨by decide, trivial, trivial, trivial,
    ⟨by decide, hword _ h.1, hword _ (Nat.le_refl _), trivial⟩, trivial⟩

end NamedEntity

/-! ### Lists -/

namespace EntityList
variable {l : EntityList}

theorem ofJson?_toJson (h : l.IsConsistent) : ofJson? l.toJson = some l := by
  show (l.map NamedEntity.toJson).mapM (fun v => (NamedEntity.ofJson v).toOption) = some l
  induction l with
  | nil => rfl
  | cons e l ih =>
    obtain ⟨he, hl⟩ := List.forall_mem_cons.mp h
    rw [List.map_cons, List.mapM_cons, NamedEntity.ofJson_toJson he, ih hl]
    rfl

theorem ofJson?_sorted_toJson (h : l.IsConsistent) : ofJson? l.toJson.sorted = some l := by
  show (Json.sortedItems (l.map NamedEntity.toJson)).mapM
    (fun v => (NamedEntity.ofJson v).toOption) = some l
  induction l with
  | nil => rfl
  | cons e l ih =>
    obtain ⟨he, hl⟩ := List.forall_mem_cons.mp h
    rw [List.map_cons, Json.sortedItems, List.mapM_cons, NamedEntity.ofJson_sorted_toJson he, ih hl]
    rfl

theorem isReadable_toJson (h : l.IsConsistent) (hwords : ∀ e ∈ l, e.FitsWords) :
    l.toJson.IsReadable 3 :=
  ⟨by decide, Json.itemsReadable_iff.mpr (List.forall_mem_map.mpr fun e he =>
    NamedEntity.isReadable_toJson (h e he) (hwords e he))⟩

/-- The lists that the program comes by: what operations leave in registers, what recognizers
extract, and what is put together or taken from such lists. -/
inductive IsReachable : EntityList → Prop
  | held (history : List Operation) (i : Nat) : IsReachable (Registers.empty.after history i)
  | extracted {v : Vocabulary} {wordBoundaries : Bool} {r : Recognizer}
      (hr : Recognizer.ofVocabulary v wordBoundaries = .ok r) (text : String) :
      IsReachable (r.extractAll text)
  | ofGroup {v : Vocabulary} {wordBoundaries : Bool} {r : Recognizer}
      (hr : Recognizer.ofVocabulary v wordBoundaries = .ok r) {group text : String} {l : EntityList}
      (hl : r.extract group text = .ok l) : IsReachable l
  | append {l l' : EntityList} (h : IsReachable l) (h' : IsReachable l') : IsReachable (l ++ l')
  | part {l l' : EntityList} (h : IsReachable l) (hl : ∀ e ∈ l', e ∈ l) : IsReachable l'

theorem isConsistent_extract {v : Vocabulary} {wordBoundaries : Bool} {r : Recognizer}
    (hr : Recognizer.ofVocabulary v wordBoundaries = .ok r) {c : CompiledGroup}
    (hc : c ∈ r.groups) (text : String) : IsConsistent (c.extract text) := by
  obtain ⟨g, -, hg⟩ := exists_mem_of_forall₂ (Recognizer.ofVocabulary_ok hr).flip hc
  exact fun e he => NamedEntity.isConsistent_of_isFound (CompiledGroup.isFound_of_mem hg he)

theorem IsReachable.isConsistent (h : l.IsReachable) : l.IsConsistent := by
  induction h with
  | held history i =>
    have hempty : Registers.empty.IsConsistent := fun _ => isConsistent_nil
    exact hempty.after history i
  | @extracted v wordBoundaries r hr text =>
    intro e he
    rw [Recognizer.extractAll_eq, List.mem_mergeSort] at he
    obtain ⟨c, hc, he⟩ := List.mem_flatMap.mp he
    exact isConsistent_extract hr hc text e he
  | @ofGroup v wordBoundaries r hr group text l hl =>
    obtain ⟨c, hc, hl⟩ := exists_of_bind_eq_ok hl
    obtain rfl := Except.ok.inj hl
    exact isConsistent_extract hr (Recognizer.mem_of_group hc) text
  | append _ _ ih ih' => exact ih.append ih'
  | part _ hl ih => exact fun e he => ih e (hl e he)

end EntityList

/-! ### Reports -/

namespace Report

/-- The value is that of the report: it has the label of the source and the entities, which are read
from it in whatever order their members come. -/
def IsInputOf (v : Json) (report : Extraction) : Prop :=
  ∃ entities, v = .object [("source", .string (report.source.getD "-")), ("entities", entities)] ∧
    EntityList.ofJson? entities = some report.entities ∧
    EntityList.ofJson? entities.sorted = some report.entities

theorem isReadable_extractions {reports : List Extraction}
    (h : ∀ report ∈ reports, report.entities.IsConsistent)
    (hwords : ∀ report ∈ reports, ∀ e ∈ report.entities, e.FitsWords) :
    (Document.extractions reports).IsReadable 6 := by
  refine ⟨by decide, ⟨by decide, Json.itemsReadable_iff.mpr ?_⟩, trivial⟩
  refine List.forall_mem_map.mpr fun report hreport => ⟨by decide, trivial, ?_, trivial⟩
  exact EntityList.isReadable_toJson (h report hreport) (hwords report hreport)

/-- A list of entities is read back from its JSON, and a document of reports holds one input for
each report, with its source and its entities. -/
theorem readsBackEntities :
    (∀ l : EntityList, l.IsReachable → (∀ e ∈ l, e.FitsWords) →
      EntityList.read? l.render = some l) ∧
    ∀ reports : List Extraction, (∀ report ∈ reports, report.entities.IsReachable) →
      (∀ report ∈ reports, ∀ e ∈ report.entities, e.FitsWords) →
      ∃ inputs, Json.read (Report.extractions reports .json) =
          some (.object [("inputs", .array inputs)]) ∧
        List.Forall₂ IsInputOf inputs reports := by
  constructor
  · intro l hl hwords
    have hread := Json.read_render (EntityList.isReadable_toJson hl.isConsistent hwords) (by decide)
    unfold EntityList.read? EntityList.render
    rw [hread, Option.bind_some, EntityList.ofJson?_toJson hl.isConsistent]
  · intro reports hreports hwords
    have hcons := fun report hreport => (hreports report hreport).isConsistent
    refine ⟨reports.map Document.extraction,
      Json.read_renderIndented (isReadable_extractions hcons hwords) (by decide), ?_⟩
    rw [List.forall₂_map_left_iff, List.forall₂_same]
    exact fun report hreport => ⟨_, rfl, EntityList.ofJson?_toJson (hcons report hreport),
      EntityList.ofJson?_sorted_toJson (hcons report hreport)⟩

/-- Marks and controls in names, and offsets at the top of the machine words, are read back. -/
theorem readsBackEntities_of_controls :
    let vs : List Json := [.object [("name", .string "a\"\\\n"), ("entity", .string "\t\x00\x7f"),
      ("string", .string "\x01é"),
      ("span", .object [("start", .int 18446744073709551612), ("end", .int 18446744073709551615)])]]
    let l := Registers.empty.after [.extendUntyped 0 vs] 0
    l.map (·.span) = [⟨18446744073709551612, 18446744073709551615⟩] ∧
      EntityList.read? l.render = some l ∧
      ∃ inputs, Json.read (Report.extractions [⟨some "a\\b", l⟩, ⟨none, l ++ l⟩] .json) =
          some (.object [("inputs", .array inputs)]) ∧
        List.Forall₂ IsInputOf inputs [⟨some "a\\b", l⟩, ⟨none, l ++ l⟩] := by
  intro vs l
  have hspans : l.map (·.span) = [⟨18446744073709551612, 18446744073709551615⟩] := by
    decide +kernel
  have hl : EntityList.IsReachable l := .held [.extendUntyped 0 vs] 0
  have hwords : ∀ e ∈ l, e.FitsWords := by
    intro e he
    have hspan := hspans ▸ List.mem_map_of_mem (f := NamedEntity.span) he
    rw [List.mem_singleton] at hspan
    rw [NamedEntity.FitsWords, hspan]
    decide
  refine ⟨hspans, readsBackEntities.1 l hl hwords, readsBackEntities.2 _ ?_ ?_⟩
  · simpa using ⟨hl, hl.append hl⟩
  · simpa using hwords

end Report
end Gazetteer
