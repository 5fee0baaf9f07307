import Gazetteer.Proofs.Entity.Consistent
import Gazetteer.Proofs.Json.Members

/-! Entities that are written in values.

What is written in a value is read from its sorted form, if it is consistent
(`NamedEntity.ofJson_sorted_eq_ok_iff`). In this form no two members of an object have the same
name. They leave in a draft what they say, whatever the order in which they come
(`Draft.holds_concat`), and so an object can be judged by looking up its members. -/
namespace Gazetteer

/-! ### Values -/

namespace Json
variable {v : Json}

theorem sortedItems_eq_map (items : List Json) : sortedItems items = items.map sorted := by
  induction items with
  | nil => rfl
  | cons v items ih => rw [sortedItems, ih, List.map_cons]

theorem sorted_eq_int_iff {n : Int} : v.sorted = .int n ↔ v = .int n := by
  cases v <;> simp [sorted]

theorem sorted_eq_string_iff {s : String} : v.sorted = .string s ↔ v = .string s := by
  cases v <;> simp [sorted]

theorem asOffset_eq_ok_iff {n : Nat} : v.asOffset = .ok n ↔ v = .int n := by
  cases v with
  | int z =>
    rw [asOffset, Json.int.injEq]
    split
    · rw [Except.ok.injEq]
      omega
    · simp only [reduceCtorEq, false_iff]
      omega
  | _ => simp [asOffset]

end Json

/-! ### Spans -/

namespace Span
variable {s : Span} {members : List (String × Json)}

/-- The value is the span: an object with its offsets and perhaps other members, or an array of the
two offsets. -/
def IsWritten (s : Span) : Json → Prop
  | .object members => Json.member? "start" (.object members) = some (.int s.start) ∧
      Json.member? "end" (.object members) = some (.int s.stop)
  | .array items => items = [.int s.start, .int s.stop]
  | _ => False

theorem isWritten_toJson (s : Span) : s.IsWritten s.toJson := ⟨rfl, rfl⟩

namespace Draft
variable {d : Draft} {v : Json}

/-- The draft holds the offsets that are among the members. -/
def Holds (members : List (String × Json)) (d : Draft) : Prop :=
  Json.Reads Json.asOffset (Json.member? "start" (.object members)) d.start ∧
    Json.Reads Json.asOffset (Json.member? "end" (.object members)) d.stop

theorem exists_iff {p : Draft → Prop} : (∃ d, p d) ↔ ∃ start stop, p ⟨start, stop⟩ :=
  ⟨fun ⟨d, h⟩ => ⟨d.start, d.stop, h⟩, fun ⟨_, _, h⟩ => ⟨_, h⟩⟩

/-- A new member is read into a part of the draft that is empty, or ignored. -/
theorem holds_concat {key : String} (hkey : key ∉ members.map Prod.fst) (v : Json) (d : Draft) :
    Holds (members ++ [(key, v)]) d ↔ ∃ d', Holds members d' ∧ d'.addMember key v = .ok d := by
  have hnone := Json.member?_eq_none_iff.mpr hkey
  obtain ⟨start, stop⟩ := d
  unfold Holds addMember
  split
  case h_3 hstart hstop =>
    simp only [Json.member?_concat, if_neg hstart, if_neg hstop, Except.ok.injEq, exists_eq_right]
  -- The part that is filled was empty, and the other is kept.
  all_goals
    simp only [hnone, Json.member?_concat, Json.fill_eq_ok_iff, Json.reads_none_left,
      Json.reads_some_left, String.reduceEq, if_true, if_false, exists_iff, mk.injEq]
    grind

theorem holds_nil (d : Draft) : Holds [] d ↔ ⟨none, none⟩ = d := by
  obtain ⟨start, stop⟩ := d
  simp [Holds, Json.member?, Json.reads_none_left, eq_comm]

theorem finish_eq_ok_iff : d.finish = .ok s ↔ d = ⟨some s.start, some s.stop⟩ := by
  obtain ⟨start, stop⟩ := d
  obtain ⟨start', stop'⟩ := s
  cases start <;> cases stop <;> simp [finish]

end Draft

theorem ofJson_object_eq_ok_iff (hnodup : (members.map Prod.fst).Nodup) :
    ofJson (.object members) = .ok s ↔ s.IsWritten (.object members) := by
  have hdraft := Json.foldlM_eq_ok_iff Draft.holds_nil Draft.holds_concat hnodup
  rw [ofJson, bind_eq_ok_iff]
  simp only [hdraft, Draft.finish_eq_ok_iff, exists_eq_right, Draft.Holds, Json.reads_some_right,
    Json.asOffset_eq_ok_iff, IsWritten]

theorem ofJson_array_eq_ok_iff {items : List Json} :
    ofJson (.array items) = .ok s ↔ s.IsWritten (.array items) := by
  obtain ⟨start, stop⟩ := s
  match items with
  | [] => simp [ofJson, IsWritten]
  | [v] => cases h : v.asOffset <;> simp [ofJson, IsWritten, h, bind, Except.bind]
  | v :: w :: more =>
    simp only [ofJson, IsWritten, bind_eq_ok_iff, Json.asOffset_eq_ok_iff]
    cases more <;> simp

/-- The value is read as a span if the span is written in it. -/
theorem ofJson_sorted_eq_ok_iff {v : Json} : ofJson v.sorted = .ok s ↔ s.IsWritten v := by
  cases v with
  | object members =>
    rw [Json.sorted, ofJson_object_eq_ok_iff (Json.nodup_sortedMembers members)]
    simp only [IsWritten, Json.member?_sorted, Option.map_eq_some_iff, Json.sorted_eq_int_iff,
      exists_eq_right]
  | array items =>
    rw [Json.sorted, ofJson_array_eq_ok_iff, IsWritten, IsWritten, Json.sortedItems_eq_map]
    simp only [List.map_eq_cons_iff, List.map_eq_nil_iff, Json.sorted_eq_int_iff]
    constructor
    · rintro ⟨_, _, rfl, rfl, _, _, rfl, rfl, rfl⟩
      rfl
    · rintro rfl
      exact ⟨_, _, rfl, rfl, _, _, rfl, rfl, rfl⟩
  | _ => simp [Json.sorted, ofJson, IsWritten]

end Span

/-! ### Entities -/

namespace NamedEntity
variable {e : NamedEntity} {members : List (String × Json)}

/-- The names of the members of an entity. -/
def fields : List String := ["name", "entity", "string", "span"]

/-- The value is the entity: an object with its four members and no other, or an array of the four
values in order. -/
def IsWritten (e : NamedEntity) : Json → Prop
  | .object members => (∀ key, key ∈ members.map Prod.fst ↔ key ∈ fields) ∧
      Json.member? "name" (.object members) = some (.string e.name) ∧
      Json.member? "entity" (.object members) = some (.string e.entity) ∧
      Json.member? "string" (.object members) = some (.string e.string) ∧
      ∃ span, Json.member? "span" (.object members) = some span ∧ e.span.IsWritten span
  | .array items => ∃ span,
      items = [.string e.name, .string e.entity, .string e.string, span] ∧ e.span.IsWritten span
  | _ => False

namespace Draft
variable {d : Draft} {v : Json}

/-- The draft holds the parts that are among the members, and there are no other members. -/
def Holds (members : List (String × Json)) (d : Draft) : Prop :=
  (∀ key ∈ members.map Prod.fst, key ∈ fields) ∧
    Json.Reads Json.asString (Json.member? "name" (.object members)) d.name ∧
    Json.Reads Json.asString (Json.member? "entity" (.object members)) d.entity ∧
    Json.Reads Json.asString (Json.member? "string" (.object members)) d.string ∧
    Json.Reads Span.ofJson (Json.member? "span" (.object members)) d.span

theorem exists_iff {p : Draft → Prop} :
    (∃ d, p d) ↔ ∃ name entity string span, p ⟨name, entity, string, span⟩ :=
  ⟨fun ⟨d, h⟩ => ⟨d.name, d.entity, d.string, d.span, h⟩, fun ⟨_, _, _, _, h⟩ => ⟨_, h⟩⟩

/-- A new member is read into a part of the draft that is empty, or is none that an entity has. -/
theorem holds_concat {key : String} (hkey : key ∉ members.map Prod.fst) (v : Json) (d : Draft) :
    Holds (members ++ [(key, v)]) d ↔ ∃ d', Holds members d' ∧ d'.addMember key v = .ok d := by
  have hnone := Json.member?_eq_none_iff.mpr hkey
  have hkeys : (∀ k ∈ (members ++ [(key, v)]).map Prod.fst, k ∈ fields) ↔
      (∀ k ∈ members.map Prod.fst, k ∈ fields) ∧ key ∈ fields := by
    rw [List.map_append, List.forall_mem_append, List.map_singleton, List.forall_mem_singleton]
  have hfields : "name" ∈ fields ∧ "entity" ∈ fields ∧ "string" ∈ fields ∧ "span" ∈ fields := by
    decide
  obtain ⟨name, entity, string, span⟩ := d
  unfold Holds addMember
  rw [hkeys]
  split
  case h_5 h₁ h₂ h₃ h₄ =>
    have hunknown : key ∉ fields := by
      simp only [fields, List.mem_cons, List.not_mem_nil, or_false, not_or]
      exact ⟨h₁, h₂, h₃, h₄⟩
    simp [hunknown]
  -- The part that is filled was empty, and the others are kept.
  all_goals
    simp only [hnone, hfields, Json.member?_concat, Json.fill_eq_ok_iff, Json.reads_none_left,
      Json.reads_some_left, String.reduceEq, if_true, if_false, exists_iff, mk.injEq, and_true]
    grind

theorem holds_nil (d : Draft) : Holds [] d ↔ ⟨none, none, none, none⟩ = d := by
  obtain ⟨name, entity, string, span⟩ := d
  simp [Holds, Json.member?, Json.reads_none_left, eq_comm]

end Draft

theorem ofJson_object_eq_ok_iff (hnodup : (members.map Prod.fst).Nodup) :
    ofJson (.object members) = .ok e ↔ Draft.Holds members
      ⟨some e.name, some e.entity, some e.string, some e.span⟩ ∧ e.IsConsistent := by
  have hdraft := Json.foldlM_eq_ok_iff Draft.holds_nil Draft.holds_concat hnodup
  rw [ofJson, bind_eq_ok_iff]
  simp only [hdraft, Draft.finish_eq_ok_iff]
  constructor
  · rintro ⟨_, hd, rfl, hcons⟩
    exact ⟨hd, hcons⟩
  · rintro ⟨hd, hcons⟩
    exact ⟨_, hd, rfl, hcons⟩

theorem keys_iff_of_isSome (h : ∀ key ∈ fields, (Json.member? key (.object members)).isSome) :
    (∀ key ∈ members.map Prod.fst, key ∈ fields) ↔
      ∀ key, key ∈ members.map Prod.fst ↔ key ∈ fields := by
  have hthere : ∀ key ∈ fields, key ∈ members.map Prod.fst := fun key hkey =>
    Json.member?_isSome_iff.mp (h key hkey)
  exact ⟨fun hknown key => ⟨hknown key, hthere key⟩, fun hkeys key => (hkeys key).mp⟩

theorem isWritten_object {span : Json} (h : e.span.IsWritten span) :
    e.IsWritten (.object [("name", .string e.name), ("entity", .string e.entity),
      ("string", .string e.string), ("span", span)]) :=
  ⟨fun _ => Iff.rfl, rfl, rfl, rfl, span, rfl, h⟩

/-- The value is read as an entity if the entity is written in it and consistent. -/
theorem ofJson_sorted_eq_ok_iff {v : Json} :
    ofJson v.sorted = .ok e ↔ e.IsWritten v ∧ e.IsConsistent := by
  cases v with
  | object members =>
    rw [Json.sorted, ofJson_object_eq_ok_iff (Json.nodup_sortedMembers members)]
    refine and_congr_left' ?_
    simp only [Draft.Holds, Json.reads_some_right, Json.asString_eq_ok_iff, Json.member?_sorted,
      Json.mem_keys_sortedMembers, Option.map_eq_some_iff, Json.sorted_eq_string_iff,
      exists_eq_right, exists_exists_and_eq_and, Span.ofJson_sorted_eq_ok_iff, IsWritten]
    refine and_congr_left ?_
    rintro ⟨hname, hentity, hstring, span, hspan, -⟩
    exact keys_iff_of_isSome (by simp [fields, hname, hentity, hstring, hspan])
  | array items =>
    rw [Json.sorted, ofJson, ofItems_eq_ok_iff, IsWritten, Json.sortedItems_eq_map]
    simp only [List.map_eq_cons_iff, List.map_eq_nil_iff, Json.sorted_eq_string_iff]
    constructor
    · rintro ⟨_, ⟨_, _, rfl, rfl, _, _, rfl, rfl, _, _, rfl, rfl, span, _, rfl, rfl, rfl⟩, h, hcons⟩
      exact ⟨⟨span, rfl, Span.ofJson_sorted_eq_ok_iff.mp h⟩, hcons⟩
    · rintro ⟨⟨span, rfl, h⟩, hcons⟩
      have hspan := Span.ofJson_sorted_eq_ok_iff.mpr h
      exact ⟨_, ⟨_, _, rfl, rfl, _, _, rfl, rfl, _, _, rfl, rfl, span, _, rfl, rfl, rfl⟩, hspan,
        hcons⟩
  | _ => simp [Json.sorted, ofJson, IsWritten]

end NamedEntity
end Gazetteer
