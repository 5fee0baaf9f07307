import Gazetteer.Proofs.Reading.Draft
import Gazetteer.Proofs.Reading.Primitive

/-! What is read outside all groups.

A bar that is read outside all groups ends an alternative of the whole pattern, and nothing else
does (`Draft.outermost_add`). So the branches of a pattern can be counted by its bars. -/
namespace Gazetteer.Regex

/-- The number of alternatives that a pattern is a choice between. -/
def Ast.branchCount : Ast → Nat
  | .alternation branches => branches.length
  | _ => 1

namespace Draft

variable {d d' : Draft} {t : Token}

/-- What has been read outside all groups. -/
def outermost (d : Draft) : Level :=
  match d.opened.getLast? with
  | none => d.level
  | some g => g.outer

/-- Outside all groups no item is a choice between alternatives. -/
def Plain (d : Draft) : Prop := ∀ a ∈ d.outermost.items, a.branchCount = 1

theorem outermost_of_nil (h : d.opened = []) : d.outermost = d.level := by
  unfold outermost
  rw [h]
  rfl

theorem outermost_cons {g : OpenGroup} {opened : List OpenGroup} {e : Draft}
    (h : e.opened = g :: opened) (hd : d.opened = opened) (hl : opened = [] → d.level = g.outer) :
    e.outermost = d.outermost := by
  unfold outermost
  rw [h, hd]
  cases opened with
  | nil => exact (hl rfl).symm
  | cons g' opened => rfl

theorem openGroup_outermost {start : GroupStart} (ha : d.openGroup start = some d') :
    d'.outermost = d.outermost := by
  unfold openGroup at ha
  split at ha
  · obtain rfl := Option.some.inj ha
    exact outermost_cons rfl rfl fun _ => rfl
  · split at ha
    · exact absurd ha (by simp)
    · obtain rfl := Option.some.inj ha
      exact outermost_cons rfl rfl fun _ => rfl
  · obtain rfl := Option.some.inj ha
    exact outermost_cons rfl rfl fun _ => rfl

/-- A token that changes only the level reached changes nothing outside the groups around it. -/
theorem outermost_of_level {l : Level} {v : Bool} (ha : d' = { d with level := l, verbose := v }) :
    d'.outermost = if d.opened.isEmpty then l else d.outermost := by
  subst ha
  unfold outermost
  cases hopened : d.opened with
  | nil => rfl
  | cons g opened =>
    rw [List.getLast?_cons]
    rfl

theorem repeatLast_some {l l' : Level} {least : Nat} {most : Option Nat} {greedy : Bool}
    (h : l.repeatLast least most greedy = some l') :
    ∃ a items, l.items = a :: items ∧ a.isRepeatable ∧
      l' = { l with items := .repetition least most greedy a :: items } := by
  unfold Level.repeatLast at h
  split at h
  · exact absurd h (by simp)
  · rename_i a items hitems
    split at h
    · rename_i hrep
      exact ⟨a, items, hitems, hrep, (Option.some.inj h).symm⟩
    · exact absurd h (by simp)

theorem branchCount_of_isPrimitive {a : Ast} (h : a.isPrimitive) : a.branchCount = 1 := by
  cases a <;> first | rfl | exact absurd h (by simp [Ast.isPrimitive])

/-- A bar outside all groups ends an alternative; no other token makes one there. -/
theorem outermost_add (ha : d.add t = some d') (ht : t.isSimple) :
    (d.Plain → d'.Plain) ∧ d'.outermost.branches =
      if t.isBar && d.opened.isEmpty then d.outermost.branch :: d.outermost.branches
      else d.outermost.branches := by
  have hpush : ∀ (l : Level) (a : Ast), (∀ b ∈ l.items, b.branchCount = 1) → a.branchCount = 1 →
      ∀ b ∈ (l.push a).items, b.branchCount = 1 := by
    intro l a hl ha b hb
    rcases List.mem_cons.mp hb with rfl | hb
    · exact ha
    · exact hl b hb
  unfold Plain
  unfold add at ha
  split at ha
  · rw [openGroup_outermost ha]
    exact ⟨id, rfl⟩
  · rw [outermost_of_level (Option.some.inj ha).symm]
    cases hopened : d.opened with
    | nil =>
      rw [outermost_of_nil hopened]
      exact ⟨fun hp => hpush _ _ hp rfl, rfl⟩
    | cons g opened => exact ⟨id, rfl⟩
  · split at ha
    · exact absurd ha (by simp)
    · rename_i g opened hopened
      obtain rfl := Option.some.inj ha
      cases opened with
      | nil =>
        have houter : d.outermost = g.outer := by
          unfold outermost
          rw [hopened]
          rfl
        rw [houter]
        exact ⟨fun hp => hpush _ _ hp rfl, rfl⟩
      | cons g' opened =>
        have houter : d.outermost = outermost { d with opened := g' :: opened } :=
          outermost_cons hopened rfl (by simp)
        rw [houter]
        exact ⟨id, rfl⟩
  · rw [outermost_of_level (Option.some.inj ha).symm]
    cases hopened : d.opened with
    | nil =>
      rw [outermost_of_nil hopened]
      exact ⟨fun _ => by simp [Level.bar], rfl⟩
    | cons g opened => exact ⟨id, rfl⟩
  · obtain ⟨l, hl, hd'⟩ := Option.map_eq_some_iff.1 ha
    rw [outermost_of_level hd'.symm]
    cases hopened : d.opened with
    | nil =>
      obtain ⟨a, items, hitems, -, rfl⟩ := repeatLast_some hl
      rw [outermost_of_nil hopened, hitems]
      refine ⟨fun hp b hb => ?_, rfl⟩
      rcases List.mem_cons.mp hb with rfl | hb
      · rfl
      · exact hp b (List.mem_cons_of_mem a hb)
    | cons g opened => exact ⟨id, rfl⟩
  · rw [outermost_of_level (Option.some.inj ha).symm]
    cases hopened : d.opened with
    | nil =>
      rw [outermost_of_nil hopened]
      exact ⟨fun hp => hpush _ _ hp (branchCount_of_isPrimitive ht), rfl⟩
    | cons g opened => exact ⟨id, rfl⟩

theorem branchCount_ofItems {items : List Ast} (h : ∀ a ∈ items, a.branchCount = 1) :
    (Ast.ofItems items).branchCount = 1 := by
  unfold Ast.ofItems
  split
  · rfl
  · rename_i a
    exact h a (List.mem_singleton.mpr rfl)
  · rfl

theorem branchCount_content {l : Level} (h : ∀ a ∈ l.items, a.branchCount = 1) :
    l.content.branchCount = l.branches.length + 1 := by
  obtain ⟨branches, items⟩ := l
  cases branches with
  | nil => exact branchCount_ofItems fun a ha => h a (List.mem_reverse.mp ha)
  | cons b branches =>
    have hmany : ∀ x y : Ast, ∀ xs, (Ast.ofBranches (x :: y :: xs)).branchCount = xs.length + 2 :=
      fun _ _ _ => rfl
    unfold Level.content
    rw [List.reverse_cons, List.reverse_cons]
    cases hrev : branches.reverse with
    | nil =>
      have : branches = [] := by simpa using hrev
      subst this
      rfl
    | cons x xs =>
      have hlen := congrArg List.length hrev
      rw [List.length_reverse] at hlen
      cases xs with
      | nil =>
        simp only [List.length_cons] at hlen ⊢
        rw [hlen]
        rfl
      | cons y xs =>
        simp only [List.cons_append, hmany, List.length_append, List.length_cons,
          List.length_nil] at hlen ⊢
        omega

end Draft
end Gazetteer.Regex
