import Gazetteer.Entity.List
import Gazetteer.Proofs.Result

/-! Consistent entities.

An entity is read from JSON only if its span covers its text (`NamedEntity.isConsistent_ofJson`).
Nothing else makes entities of values, and so a list that is read holds consistent ones
(`EntityList.isConsistent_ofJson?`). -/
namespace Gazetteer

/-! ### Entities -/

theorem Json.asString_eq_ok_iff {v : Json} {s : String} : v.asString = .ok s ↔ v = .string s := by
  cases v <;> simp [asString]

namespace NamedEntity
variable {e : NamedEntity}

/-- The parts of an entity are refused unless they are consistent. -/
theorem ofParts_eq_ok_iff {name entity string : String} {span : Span} :
    ofParts name entity string span = .ok e ↔ e = ⟨name, entity, string, span⟩ ∧ e.IsConsistent := by
  unfold ofParts
  split
  · rename_i hstart
    refine ⟨fun h => absurd h (by simp), ?_⟩
    rintro ⟨rfl, hcons⟩
    exact absurd hstart (Nat.not_lt.mpr hcons.1)
  · rename_i hstart
    split
    · rename_i hlength
      refine ⟨fun h => absurd h (by simp), ?_⟩
      rintro ⟨rfl, hcons⟩
      exact absurd hcons.2 hlength
    · rename_i hlength
      constructor
      · intro h
        obtain rfl := Except.ok.inj h
        exact ⟨rfl, Nat.not_lt.mp hstart, Decidable.not_not.mp hlength⟩
      · rintro ⟨rfl, -⟩
        rfl

theorem Draft.finish_eq_ok_iff {d : Draft} : d.finish = .ok e ↔
    d = ⟨some e.name, some e.entity, some e.string, some e.span⟩ ∧ e.IsConsistent := by
  obtain ⟨name, entity, string, span⟩ := d
  unfold Draft.finish
  split
  case h_5 name' entity' string' span' hname hentity hstring hspan =>
    dsimp only at hname hentity hstring hspan
    subst hname hentity hstring hspan
    rw [ofParts_eq_ok_iff, Draft.mk.injEq]
    obtain ⟨name, entity, string, span⟩ := e
    simp only [NamedEntity.mk.injEq, Option.some.injEq, eq_comm]
  all_goals simp_all

theorem ofItems_eq_ok_iff {items : List Json} : ofItems items = .ok e ↔ ∃ span,
    items = [.string e.name, .string e.entity, .string e.string, span] ∧
      Span.ofJson span = .ok e.span ∧ e.IsConsistent := by
  match items with
  | [] => simp [ofItems, tooFew]
  | [name] => simp [ofItems, tooFew, bind_eq_ok_iff]
  | [name, entity] => simp [ofItems, tooFew, bind_eq_ok_iff]
  | [name, entity, string] => simp [ofItems, tooFew, bind_eq_ok_iff]
  | name :: entity :: string :: span :: more =>
    simp only [ofItems, bind_eq_ok_iff, Json.asString_eq_ok_iff]
    constructor
    · rintro ⟨n, rfl, en, rfl, s, rfl, sp, hspan, h⟩
      split at h
      · rename_i hmore
        obtain ⟨rfl, hcons⟩ := ofParts_eq_ok_iff.mp h
        exact ⟨span, by rw [List.isEmpty_iff.mp hmore], hspan, hcons⟩
      · exact absurd h (by simp)
    · rintro ⟨_, hitems, hspan, hcons⟩
      simp only [List.cons.injEq] at hitems
      obtain ⟨rfl, rfl, rfl, rfl, rfl⟩ := hitems
      exact ⟨_, rfl, _, rfl, _, rfl, _, hspan, ofParts_eq_ok_iff.mpr ⟨rfl, hcons⟩⟩

theorem isConsistent_ofJson {v : Json} (h : ofJson v = .ok e) : e.IsConsistent := by
  cases v with
  | object members =>
    obtain ⟨d, -, h⟩ := exists_of_bind_eq_ok h
    exact (Draft.finish_eq_ok_iff.mp h).2
  | array items =>
    obtain ⟨_, -, -, hcons⟩ := ofItems_eq_ok_iff.mp h
    exact hcons
  | _ => exact absurd h (by simp [ofJson])

theorem isConsistent_ofUntyped {v : Json} (h : ofUntyped v = .ok e) : e.IsConsistent := by
  unfold ofUntyped at h
  split at h
  · rename_i hread
    obtain rfl := Except.ok.inj h
    exact isConsistent_ofJson hread
  · exact absurd h (by simp)

end NamedEntity

/-! ### Lists -/

namespace EntityList
variable {l l' : EntityList}

def IsConsistent (l : EntityList) : Prop := ∀ e ∈ l, e.IsConsistent

theorem isConsistent_nil : IsConsistent [] := fun _ he => absurd he List.not_mem_nil

theorem IsConsistent.append (h : IsConsistent l) (h' : IsConsistent l') :
    IsConsistent (l ++ l') := fun e he =>
  (List.mem_append.mp he).elim (h e) (h' e)

theorem isConsistent_ofJson? {v : Json} (h : ofJson? v = some l) : l.IsConsistent := by
  cases v with
  | array items =>
    intro e he
    obtain ⟨v, -, hv⟩ := exists_of_mem_mapM h he
    cases hread : NamedEntity.ofJson v with
    | error reason => exact absurd (hread ▸ hv) (by simp [Except.toOption])
    | ok e' =>
      rw [hread] at hv
      obtain rfl := Option.some.inj hv
      exact NamedEntity.isConsistent_ofJson hread
  | _ => exact absurd h (by simp [ofJson?])

theorem isConsistent_read? {text : String} (h : read? text = some l) : l.IsConsistent := by
  obtain ⟨v, -, hv⟩ := Option.bind_eq_some_iff.mp h
  exact isConsistent_ofJson? hv

/-- A part of a list is as consistent as the list. -/
theorem IsConsistent.slice? {start stop : Nat} (h : l.IsConsistent)
    (hl : l.slice? start stop = some l') : l'.IsConsistent := by
  unfold EntityList.slice? at hl
  split at hl
  · obtain rfl := Option.some.inj hl
    exact fun e he => h e (List.mem_of_mem_take (List.mem_of_mem_drop he))
  · exact absurd hl (by simp)

theorem IsConsistent.select? {indices : List Nat} (h : l.IsConsistent)
    (hl : l.select? indices = some l') : l'.IsConsistent := fun e he => by
  obtain ⟨i, -, hi⟩ := exists_of_mem_mapM hl he
  exact h e (List.mem_of_getElem? hi)

theorem IsConsistent.filter (h : l.IsConsistent) (keep : NamedEntity → Bool) :
    IsConsistent (l.filter keep) := fun e he => h e (List.mem_filter.mp he).1

theorem IsConsistent.sortBy {κ : Type} [Ord κ] (h : l.IsConsistent) (key : NamedEntity → κ)
    (descending : Bool) : (l.sortBy key descending).IsConsistent := fun e he =>
  h e (List.mem_mergeSort.mp he)

end EntityList
end Gazetteer
