import Mathlib.Logic.Function.Basic
import Gazetteer.Error
import Gazetteer.Proofs.Entity.Consistent

/-! Lists in use.

Lists stand in registers that are empty at first, and operations add to them, rearrange them, make
lists of parts of others or read lists from JSON. Whatever is done, the registers hold consistent
entities only, and what fails has not touched them (`Registers.staysConsistent`).

A step that changes a list in place may have touched the list before it fails, as nothing takes its
changes back. That no step does so is proved of each of them. -/
namespace Gazetteer

/-- An outcome that keeps what holds of a state, and if it is a failure keeps the state itself. -/
structure Keeps {ε σ : Type} (P : σ → Prop) (s : σ) (outcome : Except ε Unit × σ) : Prop where
  holds : P outcome.2
  unchanged : ∀ e, outcome.1 = .error e → outcome.2 = s

/-! ### Steps -/

namespace EntityList.Step
variable {l es : EntityList} {vs : List Json} {found : String}

theorem change_extend (es l : EntityList) : (extend es).change l = (.ok (), l ++ es) := rfl

/-- A step that converts something first fails before it has touched the list. -/
theorem change_convert {α : Type} (x : Except String α) (step : α → Step) (l : EntityList) :
    change (do step (← x)) l = match x with
      | .ok a => (step a).change l
      | .error found => (.error found, l) := by
  cases x <;> rfl

/-- All values are converted before any is appended. -/
theorem change_extendUntyped (vs : List Json) (l : EntityList) :
    (extendUntyped vs).change l = match ofUntyped vs with
      | .ok es => (.ok (), l ++ es)
      | .error found => (.error found, l) := by
  refine (change_convert (ofUntyped vs) extend l).trans ?_
  cases ofUntyped vs <;> rfl

theorem ofUntyped_eq_mapM (vs : List Json) : ofUntyped vs = vs.mapM NamedEntity.ofUntyped := by
  induction vs with
  | nil => rfl
  | cons v vs ih => rw [ofUntyped, List.mapM_cons, ih]

theorem forall₂_of_ofUntyped (h : ofUntyped vs = .ok es) :
    List.Forall₂ (fun v e => NamedEntity.ofUntyped v = .ok e) vs es :=
  forall₂_of_mapM_eq_ok ((ofUntyped_eq_mapM vs).symm.trans h)

theorem isConsistent_ofUntyped (h : ofUntyped vs = .ok es) : es.IsConsistent := by
  have hconv := forall₂_of_ofUntyped h
  clear h
  induction hconv with
  | nil => exact isConsistent_nil
  | cons he _ ih => exact List.forall_mem_cons.mpr ⟨NamedEntity.isConsistent_ofUntyped he, ih⟩

theorem keeps_extend (hl : l.IsConsistent) (hes : es.IsConsistent) :
    Keeps IsConsistent l ((extend es).change l) where
  holds := hl.append hes
  unchanged _ h := absurd h (by simp [change_extend])

theorem keeps_append {e : NamedEntity} (hl : l.IsConsistent) (he : e.IsConsistent) :
    Keeps IsConsistent l ((append e).change l) :=
  have hes : EntityList.IsConsistent [e] := List.forall_mem_singleton.mpr he
  keeps_extend hl hes

theorem keeps_convert {α : Type} {x : Except String α} {step : α → Step} (hl : l.IsConsistent)
    (h : ∀ a, x = .ok a → Keeps IsConsistent l ((step a).change l)) :
    Keeps IsConsistent l (change (do step (← x)) l) := by
  rw [change_convert]
  cases x with
  | ok a => exact h a rfl
  | error found => exact ⟨hl, fun _ _ => rfl⟩

theorem keeps_appendUntyped (hl : l.IsConsistent) (v : Json) :
    Keeps IsConsistent l ((appendUntyped v).change l) :=
  keeps_convert hl fun _ he => keeps_append hl (NamedEntity.isConsistent_ofUntyped he)

theorem keeps_extendUntyped (hl : l.IsConsistent) (vs : List Json) :
    Keeps IsConsistent l ((extendUntyped vs).change l) :=
  keeps_convert hl fun _ hes => keeps_extend hl (isConsistent_ofUntyped hes)

theorem keeps_sort {κ : Type} [Ord κ] (hl : l.IsConsistent) (key : NamedEntity → κ)
    (descending : Bool) :
    Keeps IsConsistent l (change (modify (EntityList.sortBy key descending)) l) where
  holds := hl.sortBy key descending
  unchanged _ h := absurd (show Except.ok () = Except.error _ from h) (by simp)

end EntityList.Step

/-! ### Operations -/

/-- Lists, each in a register of its own. -/
abbrev Registers := Nat → EntityList

/-- Why an operation has no result. -/
inductive Refusal
  | error (e : Error)
  /-- What was read is not the JSON of a list. -/
  | unreadable
  | outOfRange
  deriving DecidableEq

/-- An operation on the lists in registers. A result goes to register `i`, which may be one of those
it comes from. -/
inductive Operation : Type 1
  | appendUntyped (i : Nat) (v : Json)
  /-- Appends the entity that an untyped value has been converted to. -/
  | append (i : Nat) (v : Json)
  | extendUntyped (i : Nat) (vs : List Json)
  | extend (i j : Nat)
  | add (i j k : Nat)
  | slice (i j start stop : Nat)
  | select (i j : Nat) (indices : List Nat)
  | filter (i j : Nat) (keep : NamedEntity → Bool)
  | sort {κ : Type} [Ord κ] (i : Nat) (key : NamedEntity → κ) (descending : Bool)
  | read (i : Nat) (text : String)
  | ofJson (i : Nat) (v : Json)
  /-- Saves the list in register `j`, or restores what was saved there. -/
  | copy (i j : Nat)

namespace Registers

def empty : Registers := fun _ => []

/-- Changes a list in place. -/
def change (rs : Registers) (i : Nat) (step : EntityList.Step) : Except Refusal Unit × Registers :=
  let (ending, l) := step.change (rs i)
  (ending.mapError fun found => .error (.listType found), Function.update rs i l)

def put (rs : Registers) (i : Nat) (l : EntityList) : Except Refusal Unit × Registers :=
  (.ok (), Function.update rs i l)

/-- Puts a list into a register if there is one. -/
def put? (rs : Registers) (i : Nat) (refusal : Refusal) :
    Option EntityList → Except Refusal Unit × Registers
  | some l => rs.put i l
  | none => (.error refusal, rs)

/-- How an operation ends, and what it leaves in the registers. -/
def perform (rs : Registers) : Operation → Except Refusal Unit × Registers
  | .appendUntyped i v => rs.change i (.appendUntyped v)
  | .append i v =>
    match NamedEntity.ofUntyped v with
    | .ok e => rs.change i (.append e)
    | .error found => (.error (.error (.listType found)), rs)
  | .extendUntyped i vs => rs.change i (.extendUntyped vs)
  | .extend i j => rs.change i (.extend (rs j))
  | .add i j k => rs.put i (rs j ++ rs k)
  | .slice i j start stop => rs.put? i .outOfRange ((rs j).slice? start stop)
  | .select i j indices => rs.put? i .outOfRange ((rs j).select? indices)
  | .filter i j keep => rs.put i ((rs j).filter keep)
  | @Operation.sort _ _ i key descending => rs.change i (modify (EntityList.sortBy key descending))
  | .read i text => rs.put? i .unreadable (EntityList.read? text)
  | .ofJson i v => rs.put? i .unreadable (EntityList.ofJson? v.sorted)
  | .copy i j => rs.put i (rs j)

/-- What operations leave in the registers, of which some may have failed. -/
def after (rs : Registers) (history : List Operation) : Registers :=
  history.foldl (fun rs op => (rs.perform op).2) rs

def IsConsistent (rs : Registers) : Prop := ∀ i, (rs i).IsConsistent

variable {rs : Registers} {i : Nat}

theorem IsConsistent.update (h : rs.IsConsistent) {l : EntityList} (hl : l.IsConsistent) :
    IsConsistent (Function.update rs i l) := fun j => by
  by_cases hj : j = i
  · subst hj
    rwa [Function.update_self]
  · rw [Function.update_of_ne hj]
    exact h j

theorem keeps_change (h : rs.IsConsistent) {step : EntityList.Step}
    (hstep : Keeps EntityList.IsConsistent (rs i) (step.change (rs i))) :
    Keeps IsConsistent rs (rs.change i step) := by
  obtain ⟨holds, unchanged⟩ := hstep
  unfold change
  generalize step.change (rs i) = outcome at *
  obtain ⟨ending, l⟩ := outcome
  refine ⟨h.update holds, fun refusal herror => ?_⟩
  cases ending with
  | ok => exact absurd herror (by simp [Except.mapError])
  | error found =>
    -- What the step has left is written back, and that is what was there.
    obtain rfl : l = rs i := unchanged found rfl
    exact Function.update_eq_self i rs

theorem keeps_put (h : rs.IsConsistent) {l : EntityList} (hl : l.IsConsistent) :
    Keeps IsConsistent rs (rs.put i l) where
  holds := h.update hl
  unchanged _ herror := absurd herror (by simp [put])

theorem keeps_put? (h : rs.IsConsistent) {refusal : Refusal} {l? : Option EntityList}
    (hl : ∀ l, l? = some l → l.IsConsistent) : Keeps IsConsistent rs (rs.put? i refusal l?) := by
  cases l? with
  | none => exact ⟨h, fun _ _ => rfl⟩
  | some l => exact keeps_put h (hl l rfl)

theorem keeps_perform (h : rs.IsConsistent) (op : Operation) :
    Keeps IsConsistent rs (rs.perform op) := by
  cases op with
  | appendUntyped i v => exact keeps_change h (EntityList.Step.keeps_appendUntyped (h i) v)
  | append i v =>
    cases hv : NamedEntity.ofUntyped v with
    | ok e =>
      simp only [perform, hv]
      have he := NamedEntity.isConsistent_ofUntyped hv
      exact keeps_change h (EntityList.Step.keeps_append (h i) he)
    | error found =>
      simp only [perform, hv]
      exact ⟨h, fun _ _ => rfl⟩
  | extendUntyped i vs => exact keeps_change h (EntityList.Step.keeps_extendUntyped (h i) vs)
  | extend i j => exact keeps_change h (EntityList.Step.keeps_extend (h i) (h j))
  | add i j k => exact keeps_put h ((h j).append (h k))
  | slice i j start stop => exact keeps_put? h fun _ hl => (h j).slice? hl
  | select i j indices => exact keeps_put? h fun _ hl => (h j).select? hl
  | filter i j keep => exact keeps_put h ((h j).filter keep)
  | sort i key descending => exact keeps_change h (EntityList.Step.keeps_sort (h i) key descending)
  | read i text => exact keeps_put? h fun _ hl => EntityList.isConsistent_read? hl
  | ofJson i v => exact keeps_put? h fun _ hl => EntityList.isConsistent_ofJson? hl
  | copy i j => exact keeps_put h (h j)

theorem IsConsistent.after (h : rs.IsConsistent) (history : List Operation) :
    (rs.after history).IsConsistent := by
  induction history generalizing rs with
  | nil => exact h
  | cons op history ih => exact ih (keeps_perform h op).holds

/-- How it ends to extend the list in register `i` by the values `vs`: they are all appended in
order, or the first that is no entity is reported and none is appended. -/
inductive Extends (rs : Registers) (i : Nat) (vs : List Json) :
    Except Refusal Unit × Registers → Prop
  | all {es : EntityList} (h : List.Forall₂ (fun v e => NamedEntity.ofUntyped v = .ok e) vs es) :
      Extends rs i vs (.ok (), Function.update rs i (rs i ++ es))
  | none {before after : List Json} {v : Json} {found : String} (hvs : vs = before ++ v :: after)
      (hbefore : ∀ w ∈ before, ∃ e, NamedEntity.ofUntyped w = .ok e)
      (hv : NamedEntity.ofUntyped v = .error found) :
      Extends rs i vs (.error (.error (.listType found)), rs)

theorem extends_perform (rs : Registers) (i : Nat) (vs : List Json) :
    Extends rs i vs (rs.perform (.extendUntyped i vs)) := by
  have hchange := EntityList.Step.change_extendUntyped vs (rs i)
  show Extends rs i vs (rs.change i (.extendUntyped vs))
  unfold change
  rw [hchange]
  cases hvs : EntityList.Step.ofUntyped vs with
  | ok es => exact .all (EntityList.Step.forall₂_of_ofUntyped hvs)
  | error found =>
    rw [EntityList.Step.ofUntyped_eq_mapM] at hvs
    obtain ⟨before, v, after, hsplit, hbefore, hv⟩ := mapM_eq_error_iff.mp hvs
    simp only [Function.update_eq_self]
    exact .none hsplit hbefore hv

/-- What holds of registers, and of every operation on them. -/
structure IsSound (rs : Registers) : Prop where
  consistent : ∀ i, ∀ e ∈ rs i, e.IsConsistent
  kept : ∀ op refusal, (rs.perform op).1 = .error refusal → (rs.perform op).2 = rs
  batch : ∀ i vs, Extends rs i vs (rs.perform (.extendUntyped i vs))

/-- Whatever has been done to lists that were empty at first, they hold consistent entities only,
and an operation that fails leaves them as they are. -/
theorem staysConsistent (history : List Operation) : IsSound (empty.after history) := by
  have hempty : empty.IsConsistent := fun _ => EntityList.isConsistent_nil
  have h := hempty.after history
  exact ⟨h, fun op => (keeps_perform h op).unchanged, extends_perform _⟩

/-- A batch is lost as a whole if a value in it is no entity. -/
example :
    let jazz := Json.object [("name", .string "jazz"), ("entity", .string "GENRE"),
      ("string", .string "jazz"), ("span", .object [("start", .int 2), ("end", .int 6)])]
    let rs := empty.after [.appendUntyped 0 jazz, .extendUntyped 0 [jazz, .null], .add 1 0 0]
    rs 0 = [⟨"jazz", "GENRE", "jazz", ⟨2, 6⟩⟩] ∧ rs 1 = rs 0 ++ rs 0 := by
  decide

end Registers
end Gazetteer
