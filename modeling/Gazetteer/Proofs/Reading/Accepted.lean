import Mathlib.Data.List.Forall2
import Gazetteer.Regex.Search
import Gazetteer.Proofs.Outline.Framing

/-! Which patterns are accepted.

A text is accepted as a pattern if it is read to its end with no group left open, is not nested too
deeply and has a meaning (`Regex.isSome_ofPattern?_iff`). Whether items have a meaning is decided
from left to right, each under the flags that the ones before it leave in force
(`Ast.modeAfter?_ofItems`, `Ast.modeAfter?_ofBranches`). -/
namespace Gazetteer.Regex

namespace Ast

/-! ### Meaning -/

/-- The flags in force behind a pattern that has a meaning. -/
def modeAfter? (m : Mode) (a : Ast) : Option Mode := (Node.ofAst m a).map Prod.snd

theorem map_snd_ofItemsAfter (first : Node) (m : Mode) (items : List Ast) :
    (Node.ofItemsAfter first m items).map Prod.snd = items.foldlM modeAfter? m := by
  induction items generalizing first m with
  | nil => rfl
  | cons a items ih =>
    show ((Node.ofAst m a).bind fun p => Node.ofItemsAfter (.cat first p.1) p.2 items).map _ = _
    rw [List.foldlM_cons]
    unfold modeAfter?
    cases Node.ofAst m a with
    | none => rfl
    | some p => exact ih (.cat first p.1) p.2

theorem modeAfter?_concat (m : Mode) (items : List Ast) :
    (concat items).modeAfter? m = items.foldlM modeAfter? m := by
  cases items with
  | nil => rfl
  | cons a items =>
    show ((Node.ofAst m a).bind fun p => Node.ofItemsAfter p.1 p.2 items).map Prod.snd = _
    rw [List.foldlM_cons]
    conv_rhs => unfold modeAfter?
    cases Node.ofAst m a with
    | none => rfl
    | some p => exact map_snd_ofItemsAfter p.1 p.2 items

theorem modeAfter?_alternation (m : Mode) (branches : List Ast) :
    (alternation branches).modeAfter? m = branches.foldlM modeAfter? m := by
  induction branches generalizing m with
  | nil => rfl
  | cons a branches ih =>
    rw [List.foldlM_cons]
    cases branches with
    | nil =>
      show a.modeAfter? m = (a.modeAfter? m).bind some
      rw [Option.bind_fun_some]
    | cons b branches =>
      show ((Node.ofAst m a).bind fun p => (Node.ofBranches p.2 (b :: branches)).bind _).map
        Prod.snd = _
      conv_rhs => unfold modeAfter?
      cases Node.ofAst m a with
      | none => rfl
      | some p =>
        refine Eq.trans ?_ (ih p.2)
        show ((Node.ofBranches p.2 (b :: branches)).bind _).map Prod.snd =
          (Node.ofBranches p.2 (b :: branches)).map Prod.snd
        cases Node.ofBranches p.2 (b :: branches) <;> rfl

theorem modeAfter?_ofItems (m : Mode) (items : List Ast) :
    (ofItems items).modeAfter? m = items.foldlM modeAfter? m := by
  cases items with
  | nil => rfl
  | cons a items =>
    cases items with
    | nil =>
      rw [List.foldlM_cons]
      exact (Option.bind_fun_some _).symm
    | cons b items => exact modeAfter?_concat m (a :: b :: items)

theorem modeAfter?_ofBranches (m : Mode) (branches : List Ast) :
    (ofBranches branches).modeAfter? m = branches.foldlM modeAfter? m := by
  cases branches with
  | nil => rfl
  | cons a branches =>
    cases branches with
    | nil =>
      rw [List.foldlM_cons]
      exact (Option.bind_fun_some _).symm
    | cons b branches => exact modeAfter?_alternation m (a :: b :: branches)

/-! ### Nesting -/

theorem height_ofItems_le (items : List Ast) : (ofItems items).height ≤ heights items + 1 := by
  cases items with
  | nil => exact Nat.zero_le _
  | cons a items =>
    cases items with
    | nil => exact Nat.le_succ_of_le (Nat.le_max_left ..)
    | cons _ _ => exact Nat.le_refl _

theorem heights_mono {as bs : List Ast} (h : List.Forall₂ (fun a b => height a ≤ height b) as bs) :
    heights as ≤ heights bs := by
  induction h with
  | nil => exact Nat.le_refl _
  | cons hab _ ih =>
    refine Nat.max_le.mpr ⟨?_, ?_⟩
    · exact Nat.le_trans hab (Nat.le_max_left ..)
    · exact Nat.le_trans ih (Nat.le_max_right ..)

theorem height_ofItems_mono {as bs : List Ast}
    (h : List.Forall₂ (fun a b => height a ≤ height b) as bs) :
    (ofItems as).height ≤ (ofItems bs).height := by
  match h with
  | .nil => exact Nat.le_refl _
  | .cons hab .nil => exact hab
  | .cons hab (.cons hab' hrest) =>
    exact Nat.succ_le_succ (heights_mono (.cons hab (.cons hab' hrest)))

theorem height_ofBranches_mono {as bs : List Ast}
    (h : List.Forall₂ (fun a b => height a ≤ height b) as bs) :
    (ofBranches as).height ≤ (ofBranches bs).height := by
  match h with
  | .nil => exact Nat.le_refl _
  | .cons hab .nil => exact hab
  | .cons hab (.cons hab' hrest) =>
    exact Nat.succ_le_succ (heights_mono (.cons hab (.cons hab' hrest)))

/-- Items that follow nest no less deeply. -/
theorem height_ofItems_append (items more : List Ast) :
    (ofItems items).height ≤ (ofItems (items ++ more)).height := by
  have hheights : heights items ≤ heights (items ++ more) :=
    heights_le_iff.mpr fun a ha =>
      heights_le_iff.mp (Nat.le_refl _) a (List.mem_append_left more ha)
  match items, more with
  | [], _ => exact Nat.zero_le _
  | items, [] => exact Nat.le_of_eq (by rw [List.append_nil])
  | [a], b :: more => exact Nat.le_succ_of_le (Nat.le_max_left ..)
  | a :: b :: items, _ => exact Nat.succ_le_succ hheights

/-! ### Comparison -/

/-- The pattern `b` nests no less deeply than `a`, and it has a meaning where `a` has one and leaves
the same flags in force. -/
structure Below (a b : Ast) : Prop where
  nests : a.height ≤ b.height
  means : ∀ m, b.modeAfter? m = a.modeAfter? m

namespace Below

theorem refl (a : Ast) : a.Below a := ⟨Nat.le_refl _, fun _ => rfl⟩

theorem foldlM {as bs : List Ast} (h : List.Forall₂ Below as bs) (m : Mode) :
    bs.foldlM modeAfter? m = as.foldlM modeAfter? m := by
  induction h generalizing m with
  | nil => rfl
  | cons hab _ ih =>
    rw [List.foldlM_cons, List.foldlM_cons, hab.means]
    exact Option.bind_congr fun m' _ => ih m'

theorem ofBranches {as bs : List Ast} (h : List.Forall₂ Below as bs) :
    (ofBranches as).Below (ofBranches bs) := by
  refine ⟨height_ofBranches_mono (h.imp fun _ _ hab => hab.nests), fun m => ?_⟩
  rw [modeAfter?_ofBranches, modeAfter?_ofBranches, foldlM h]

variable {more : List Ast}

theorem append (items : List Ast) (hmore : ∀ m, more.foldlM modeAfter? m = some m) :
    (ofItems items).Below (ofItems (items ++ more)) := by
  refine ⟨height_ofItems_append items more, fun m => ?_⟩
  rw [modeAfter?_ofItems, modeAfter?_ofItems, List.foldlM_append]
  show (items.foldlM modeAfter? m).bind _ = _
  cases items.foldlM modeAfter? m with
  | none => rfl
  | some m' => exact hmore m'

theorem modeAfter?_anchorAst (anchor : Pattern.Anchor) (m : Mode) :
    (anchorAst anchor).modeAfter? m = some m := by
  cases anchor <;> rfl

/-- Anchors around an alternative leave the flags alone. -/
theorem bounds (anchor : Pattern.Anchor) (items : List Ast)
    (hmore : ∀ m, more.foldlM modeAfter? m = some m) :
    (ofItems items).Below (Draft.bounds (anchorAst anchor) (items ++ more)) := by
  have hsame : (ofItems items).Below (ofItems (items ++ (more ++ [anchorAst anchor]))) := by
    refine append items fun m => ?_
    rw [List.foldlM_append, hmore]
    show ((anchorAst anchor).modeAfter? m).bind some = _
    rw [modeAfter?_anchorAst]
    rfl
  have hbounds : Draft.bounds (anchorAst anchor) (items ++ more) =
      .concat (anchorAst anchor :: (items ++ (more ++ [anchorAst anchor]))) := by
    rw [← List.append_assoc]
    generalize items ++ more = between
    cases between <;> rfl
  rw [hbounds]
  refine ⟨?_, fun m => ?_⟩
  · refine Nat.le_trans (height_ofItems_le items) (Nat.succ_le_succ ?_)
    refine heights_le_iff.mpr fun a ha => heights_le_iff.mp (Nat.le_refl _) a ?_
    exact List.mem_cons_of_mem _ (List.mem_append_left _ ha)
  · rw [modeAfter?_concat, List.foldlM_cons, modeAfter?_anchorAst, ← hsame.means,
      modeAfter?_ofItems]
    rfl

end Below

end Ast

/-! ### Patterns -/

/-- The draft is a pattern, whole and with a meaning. -/
structure Draft.IsPattern (m : Mode) (e : Draft) : Prop where
  opened : e.opened = []
  nests : e.level.content.height ≤ Ast.heightLimit
  means : (e.level.content.modeAfter? m).isSome

theorem Draft.IsPattern.of_below {m : Mode} {e z : Draft} (h : z.IsPattern m)
    (hopened : e.opened = []) (hbelow : e.level.content.Below z.level.content) : e.IsPattern m := by
  refine ⟨hopened, Nat.le_trans hbelow.nests h.nests, ?_⟩
  rw [← hbelow.means]
  exact h.means

theorem isSome_ofPattern?_iff {o : Options} {cs : List Char} :
    (ofPattern? o (.ofList cs)).isSome ↔
      ∃ e, (Draft.start o.verbose).addText cs = some e ∧ e.IsPattern o.mode := by
  have hmeans : ∀ a : Ast, Ast.read o.verbose (.ofList cs) = some a →
      (ofPattern? o (.ofList cs)).isSome = (a.modeAfter? o.mode).isSome := by
    intro a ha
    unfold ofPattern? Ast.modeAfter?
    rw [ha]
    show ((Node.ofAst o.mode a).bind _).isSome = _
    cases Node.ofAst o.mode a <;> rfl
  constructor
  · intro h
    cases ha : Ast.read o.verbose (.ofList cs) with
    | none =>
      unfold ofPattern? at h
      rw [ha] at h
      exact absurd h (by simp)
    | some a =>
      obtain ⟨hheight, e, he, hopened, rfl⟩ := Ast.addText_of_read ha
      exact ⟨e, he, hopened, hheight, (hmeans _ ha).symm.trans h⟩
  · rintro ⟨e, he, hopened, hheight, hmeaning⟩
    rw [hmeans _ (Ast.read_of_addText he hopened hheight)]
    exact hmeaning

end Gazetteer.Regex
