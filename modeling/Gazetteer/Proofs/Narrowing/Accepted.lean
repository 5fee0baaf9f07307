import Mathlib.Data.List.Forall2
import Gazetteer.Proofs.Narrowing.Draft
import Gazetteer.Proofs.Reading.Accepted

/-! Narrowing accepts no more than the pattern.

Spelled out, a class has a meaning if and only if it has one as it is written
(`Ast.modeAfter?_asciiOnly`), and what was read of a pattern nests no less deeply than before
(`Draft.Lexed.grows`). So where a narrowed pattern is accepted, the pattern itself is
(`Draft.Lexed.isPattern_of_asciiOnly`). -/
namespace Gazetteer.Regex

/-! ### Meaning -/

namespace ClassSet

theorem charSet?_bracketed (m : Mode) (negated : Bool) (items : List ClassSet) :
    (bracketed negated (ofItems items)).charSet? m =
      (charSets? m items).bind fun s => negateIf m negated (CharSet.fold m s) := by
  rw [charSet?, charSet?_ofItems]

theorem isSome_charSet?_members (m : Mode) (k : EscapeClass) (negated : Bool) :
    ((bracketed negated (ofItems k.members)).charSet? m).isSome =
      ((escape k negated).charSet? m).isSome := by
  rw [charSet?_bracketed, charSets?_members, Option.bind_some]
  exact isSome_negateIf negated _ _

mutual
/-- The members that a class expression is spelled out as have a meaning if it has one. -/
theorem isSome_charSets?_pieces (m : Mode) (s : ClassSet) :
    (charSets? m s.pieces).isSome = (s.charSet? m).isSome := by
  match s with
  | .empty => rfl
  | .literal _ | .range _ _ | .ascii _ _ | .property _ _ => exact congrArg _ (charSets?_singleton _)
  | .escape k false =>
    rw [pieces, charSets?_members]
    rfl
  | .escape k true =>
    rw [pieces, charSets?_singleton]
    exact isSome_charSet?_members m k true
  | .bracketed negated inner =>
    rw [pieces, charSets?_singleton, charSet?_bracketed]
    exact isSome_bind_congr (isSome_charSets?_pieces m inner) fun _ _ => isSome_negateIf negated _ _
  | .union items => exact isSome_charSets?_piecesOf m items
  | .binary op left right =>
    rw [pieces, charSets?_singleton, charSet?, charSet?_ofItems, charSet?_ofItems]
    exact isSome_bind_congr (isSome_charSets?_pieces m left) fun _ _ =>
      isSome_bind_congr (isSome_charSets?_pieces m right) fun _ _ => rfl

theorem isSome_charSets?_piecesOf (m : Mode) (items : List ClassSet) :
    (charSets? m (piecesOf items)).isSome = (charSets? m items).isSome := by
  match items with
  | [] => rfl
  | item :: items =>
    rw [piecesOf, charSets?_append, charSets?]
    refine isSome_bind_congr (isSome_charSets?_pieces m item) fun s t => ?_
    rw [Option.isSome_map, isSome_charSets?_piecesOf m items]
    show _ = ((charSets? m items).bind _).isSome
    cases charSets? m items <;> rfl
end

end ClassSet

namespace Ast

theorem modeAfter?_set (m : Mode) (s : ClassSet) :
    (set s).modeAfter? m = if (s.charSet? m).isSome then some m else none := by
  unfold modeAfter?
  rw [Node.ofAst]
  cases s.charSet? m <;> rfl

mutual
/-- A pattern has a meaning spelled out if it has one as it is, and leaves the same flags in force. -/
theorem modeAfter?_asciiOnly (m : Mode) (a : Ast) : a.asciiOnly.modeAfter? m = a.modeAfter? m := by
  match a with
  | .empty | .flags _ | .literal _ _ | .dot => rfl
  | .assertion edge => cases edge <;> rfl
  | .set s =>
    have hspelled : (set (.ofItems s.pieces)).modeAfter? m = (set s).modeAfter? m := by
      rw [modeAfter?_set, modeAfter?_set, ClassSet.charSet?_ofItems,
        ClassSet.isSome_charSets?_pieces]
    cases s with
    | escape k negated =>
      rw [asciiOnly, modeAfter?_set, modeAfter?_set, ClassSet.isSome_charSet?_members]
    | _ => exact hspelled
  | .repetition least most greedy inner =>
    exact Node.mode_map (modeAfter?_asciiOnly m inner) fun _ _ _ => rfl
  | .group (.capture index name) inner =>
    exact Node.mode_map (modeAfter?_asciiOnly m inner) fun _ _ _ => rfl
  | .group (.plain changes) inner =>
    exact Node.mode_map (modeAfter?_asciiOnly (m.switch changes) inner) fun _ _ _ => rfl
  | .alternation branches =>
    rw [asciiOnly, modeAfter?_alternation, modeAfter?_alternation]
    exact foldlM_asciiOnlyAll m branches
  | .concat items =>
    rw [asciiOnly, modeAfter?_concat, modeAfter?_concat]
    exact foldlM_asciiOnlyAll m items

theorem foldlM_asciiOnlyAll (m : Mode) (parts : List Ast) :
    (asciiOnlyAll parts).foldlM modeAfter? m = parts.foldlM modeAfter? m := by
  match parts with
  | [] => rfl
  | part :: parts =>
    rw [asciiOnlyAll, List.foldlM_cons, List.foldlM_cons, modeAfter?_asciiOnly m part]
    exact Option.bind_congr fun m' _ => foldlM_asciiOnlyAll m' parts
end

end Ast

/-! ### Nesting of classes -/

namespace ClassSet

theorem heights_le_iff {items : List ClassSet} {n : Nat} :
    heights items ≤ n ↔ ∀ item ∈ items, item.height ≤ n := by
  induction items with
  | nil => simp [heights]
  | cons item items ih => rw [heights, Nat.max_le, ih, List.forall_mem_cons]

theorem heights_le_ofItems (items : List ClassSet) : heights items ≤ (ofItems items).height := by
  match items with
  | [] => exact Nat.le_refl _
  | [item] => exact Nat.max_le.mpr ⟨Nat.le_refl _, Nat.zero_le _⟩
  | _ :: _ :: _ => exact Nat.le_succ _

/-- Spelled out, a member does not vanish and nests no less deeply. -/
structure Sturdy (s : ClassSet) : Prop where
  stays : s.pieces ≠ []
  nests : s.height ≤ heights s.pieces

/-- Spelled out, what is between two brackets nests no less deeply. -/
def Grows (s : ClassSet) : Prop := s.height ≤ (ofItems s.pieces).height

theorem Sturdy.of_pieces_eq {s : ClassSet} (h : s.pieces = [s]) : s.Sturdy := by
  refine ⟨by simp [h], ?_⟩
  rw [h]
  exact Nat.le_max_left ..

theorem Sturdy.escape (k : EscapeClass) (negated : Bool) : (escape k negated).Sturdy := by
  refine ⟨?_, Nat.zero_le _⟩
  cases negated with
  | false => cases k <;> exact List.cons_ne_nil _ _
  | true => exact List.cons_ne_nil _ _

theorem Sturdy.bracketed (negated : Bool) {inner : ClassSet} (h : inner.Grows) :
    (bracketed negated inner).Sturdy :=
  ⟨List.cons_ne_nil _ _, Nat.le_trans (Nat.succ_le_succ h) (Nat.le_max_left ..)⟩

theorem Grows.binary (op : ClassOp) {left right : ClassSet} (hl : left.Grows) (hr : right.Grows) :
    (binary op left right).Grows := by
  refine Nat.succ_le_succ (Nat.max_le.mpr ⟨?_, ?_⟩)
  · exact Nat.le_trans hl (Nat.le_max_left ..)
  · exact Nat.le_trans hr (Nat.le_max_right ..)

theorem Grows.ofItems {items : List ClassSet} (h : ∀ item ∈ items, item.Sturdy) :
    (ofItems items).Grows := by
  have hheights : heights items ≤ heights (items.flatMap pieces) := by
    refine heights_le_iff.mpr fun item hitem => Nat.le_trans (h item hitem).nests ?_
    exact heights_le_iff.mpr fun piece hpiece =>
      heights_le_iff.mp (Nat.le_refl _) piece (List.mem_flatMap.mpr ⟨item, hitem, hpiece⟩)
  unfold Grows
  rw [pieces_ofItems]
  match items with
  | [] => exact Nat.le_refl _
  | [item] =>
    rw [List.flatMap_singleton]
    exact Nat.le_trans (h item (List.mem_singleton_self _)).nests (heights_le_ofItems _)
  | first :: second :: rest =>
    -- Each of the two members leaves a piece, so the pieces are a union as well.
    obtain ⟨x, xs, hx⟩ := List.exists_cons_of_ne_nil (h first (by simp)).stays
    obtain ⟨y, ys, hy⟩ := List.exists_cons_of_ne_nil (h second (by simp)).stays
    have hunion : ∀ zs, ClassSet.ofItems (x :: (xs ++ y :: zs)) = .union (x :: (xs ++ y :: zs)) := by
      intro zs
      cases xs <;> rfl
    have hpieces : (first :: second :: rest).flatMap pieces =
        x :: (xs ++ y :: (ys ++ rest.flatMap pieces)) := by
      rw [List.flatMap_cons, List.flatMap_cons, hx, hy]
      rfl
    rw [hpieces] at hheights ⊢
    rw [hunion]
    exact Nat.succ_le_succ hheights

end ClassSet

namespace Bracket

open ClassSet (Sturdy Grows)

variable {verbose : Bool}

/-- What was read behind a bracket nests no less deeply once it is spelled out. -/
structure Keeps (b : Bracket) : Prop where
  items : ∀ item ∈ b.items, item.Sturdy
  pending : ∀ op left, b.pending = some (op, left) → left.Grows

theorem Keeps.content {b : Bracket} (h : b.Keeps) : b.content.Grows := by
  have hright : (ClassSet.ofItems b.items.reverse).Grows :=
    .ofItems fun item hitem => h.items item (List.mem_reverse.mp hitem)
  unfold Bracket.content
  split
  · exact hright
  · rename_i op left hpending
    exact .binary op (h.pending op left hpending) hright

theorem Keeps.close {b : Bracket} (h : b.Keeps) : b.close.Sturdy := .bracketed b.negated h.content

theorem Keeps.push {b : Bracket} {m : ClassSet} (h : b.Keeps) (hm : m.Sturdy) :
    (b.push m).Keeps := by
  refine ⟨fun item hitem => ?_, h.pending⟩
  rcases List.mem_cons.mp hitem with rfl | hitem
  · exact hm
  · exact h.items item hitem

theorem Keeps.operate {b : Bracket} (h : b.Keeps) (op : ClassOp) : (b.operate op).Keeps := by
  refine ⟨fun item hitem => absurd hitem List.not_mem_nil, fun op' left hpending => ?_⟩
  obtain ⟨-, rfl⟩ := Prod.mk.inj (Option.some.inj hpending)
  exact h.content

theorem Opening.keeps {tl o : List Char} {b : Bracket} (h : Opening verbose tl o b) : b.Keeps := by
  obtain @⟨_, _, negated, items, _, hl⟩ := h
  refine ⟨fun item hitem => .of_pieces_eq ?_, fun _ _ hpending => absurd hpending (by simp)⟩
  have hitem := List.mem_reverse.mp hitem
  cases hl with
  | bracket _ _ =>
    rw [List.mem_singleton.mp hitem]
    rfl
  | hyphens _ _ _ _ _ =>
    obtain ⟨c, -, rfl⟩ := List.mem_map.mp hitem
    rfl

theorem Morsel.sturdy {tl w : List Char} {m : ClassSet} (h : Morsel verbose tl w (.member m)) :
    m.Sturdy := by
  cases h with
  | named negated _ => exact .of_pieces_eq rfl
  | @single _ a _ hu hm _ _ =>
    by_cases hk : ∃ k negated, a = .set (.escape k negated)
    · obtain ⟨k, negated, rfl⟩ := hk
      rw [← Option.some.inj hm]
      exact .escape k negated
    · exact .of_pieces_eq (pieces_of_member? hu hm fun k negated heq => hk ⟨k, negated, heq⟩)
  | range _ _ _ _ _ hr _ _ =>
    unfold range? at hr
    split at hr
    · split at hr
      · rw [← Option.some.inj hr]
        exact .of_pieces_eq rfl
      · exact absurd hr (by simp)
    · exact absurd hr (by simp)

theorem Run.sturdy {inner : Bracket} {outer : List Bracket} {u : List Char} {s : ClassSet}
    (h : Run verbose inner outer u s) (hinner : inner.Keeps) (houter : ∀ o ∈ outer, o.Keeps) :
    s.Sturdy := by
  induction h with
  | close _ => exact hinner.close
  | leave _ _ ih =>
    rw [List.forall_mem_cons] at houter
    exact ih (houter.1.push hinner.close) houter.2
  | enter _ hw _ ih =>
    cases hw with
    | opening ho _ => exact ih ho.keeps (List.forall_mem_cons.mpr ⟨hinner, houter⟩)
  | member _ hw _ _ ih => exact ih (hinner.push hw.sturdy) houter
  | operator _ _ _ ih => exact ih (hinner.operate _) houter

end Bracket

/-! ### Nesting of patterns -/

/-- Spelled out, a pattern nests no less deeply. -/
def Ast.Grows (a : Ast) : Prop := a.height ≤ a.asciiOnly.height

theorem Ast.forall₂_asciiOnly {as : List Ast} (h : ∀ a ∈ as, a.Grows) :
    List.Forall₂ (fun a b => a.height ≤ b.height) as (as.map Ast.asciiOnly) :=
  List.forall₂_map_right_iff.mpr (List.forall₂_same.mpr h)

theorem Token.Lexeme.grows {verbose : Bool} {tl w : List Char} {a : Ast}
    (h : Lexeme verbose tl w (.atom a)) : a.Grows := by
  cases h with
  | group _ hh => rcases hh.opens with ⟨_, h⟩ | ⟨_, h⟩ <;> exact absurd h (by simp)
  | set ho hu =>
    obtain ⟨negated, content, rfl⟩ := hu.exists_bracketed
    exact Nat.le_trans (hu.sturdy ho.keeps fun o ho => absurd ho List.not_mem_nil).nests
      (ClassSet.heights_le_ofItems _)
  | escape he _ =>
    obtain ⟨c, z, -, rfl, -, -⟩ := he.shape
    cases he.meaning <;> exact Nat.zero_le _
  | single hc =>
    unfold single? at hc
    split at hc
    · exact absurd hc (by simp)
    · split at hc <;> exact Option.some.inj hc ▸ Nat.zero_le _

/-- Everything on the level nests no less deeply spelled out. -/
structure Level.Grows (l : Level) : Prop where
  branches : ∀ a ∈ l.branches, a.Grows
  items : ∀ a ∈ l.items, a.Grows

namespace Level.Grows

variable {l : Level}

theorem empty : Level.empty.Grows :=
  ⟨fun _ h => absurd h List.not_mem_nil, fun _ h => absurd h List.not_mem_nil⟩

theorem push (h : l.Grows) {a : Ast} (ha : a.Grows) : (l.push a).Grows :=
  ⟨h.branches, List.forall_mem_cons.mpr ⟨ha, h.items⟩⟩

theorem branch (h : l.Grows) : l.branch.Grows := by
  unfold Ast.Grows Level.branch
  rw [Ast.asciiOnly_ofItems]
  exact Ast.height_ofItems_mono
    (Ast.forall₂_asciiOnly fun a ha => h.items a (List.mem_reverse.mp ha))

theorem bar (h : l.Grows) : l.bar.Grows :=
  ⟨List.forall_mem_cons.mpr ⟨h.branch, h.branches⟩, fun _ h => absurd h List.not_mem_nil⟩

theorem content (h : l.Grows) : l.content.Grows := by
  unfold Ast.Grows Level.content
  rw [Ast.asciiOnly_ofBranches]
  refine Ast.height_ofBranches_mono (Ast.forall₂_asciiOnly fun a ha => ?_)
  rcases List.mem_cons.mp (List.mem_reverse.mp ha) with rfl | ha
  · exact h.branch
  · exact h.branches a ha

theorem repeatLast {l' : Level} {least : Nat} {most : Option Nat} {greedy : Bool} (h : l.Grows)
    (hl : l.repeatLast least most greedy = some l') : l'.Grows := by
  obtain ⟨a, items, hitems, -, rfl⟩ := Draft.repeatLast_some hl
  have hall := h.items
  rw [hitems, List.forall_mem_cons] at hall
  exact ⟨h.branches, List.forall_mem_cons.mpr ⟨Nat.succ_le_succ hall.1, hall.2⟩⟩

end Level.Grows

namespace Draft

/-- Everything read nests no less deeply spelled out. -/
structure Grows (d : Draft) : Prop where
  level : d.level.Grows
  opened : ∀ g ∈ d.opened, g.outer.Grows

variable {d d' e : Draft}

theorem Grows.start (verbose : Bool) : (start verbose).Grows :=
  ⟨.empty, fun _ h => absurd h List.not_mem_nil⟩

theorem Grows.openGroup {s : GroupStart} (h : d.Grows) (ha : d.openGroup s = some d') :
    d'.Grows := by
  have hopened : ∀ kind verbose, ∀ g ∈ OpenGroup.mk kind d.level verbose :: d.opened, g.outer.Grows :=
    fun _ _ => List.forall_mem_cons.mpr ⟨h.level, h.opened⟩
  unfold Draft.openGroup at ha
  split at ha
  · exact Option.some.inj ha ▸ ⟨.empty, hopened _ _⟩
  · split at ha
    · exact absurd ha (by simp)
    · exact Option.some.inj ha ▸ ⟨.empty, hopened _ _⟩
  · exact Option.some.inj ha ▸ ⟨.empty, hopened _ _⟩

theorem Grows.add {t : Token} (h : d.Grows) (ha : d.add t = some d')
    (ht : ∀ a, t = .atom a → a.Grows) : d'.Grows := by
  cases t with
  | openGroup s => exact h.openGroup ha
  | flags changes => exact Option.some.inj ha ▸ ⟨h.level.push (Nat.zero_le _), h.opened⟩
  | closeGroup =>
    obtain ⟨level, opened, verbose, captures, names⟩ := d
    cases opened with
    | nil => exact absurd ha (by simp [Draft.add])
    | cons g opened =>
      obtain ⟨hg, hopened⟩ := List.forall_mem_cons.mp h.opened
      exact Option.some.inj ha ▸ ⟨hg.push (Nat.succ_le_succ h.level.content), hopened⟩
  | bar => exact Option.some.inj ha ▸ ⟨h.level.bar, h.opened⟩
  | repetition least most greedy =>
    obtain ⟨l, hl, rfl⟩ := Option.map_eq_some_iff.1 ha
    exact ⟨h.level.repeatLast hl, h.opened⟩
  | atom a => exact Option.some.inj ha ▸ ⟨h.level.push (ht a rfl), h.opened⟩

theorem Lexed.grows {cs : List Char} {o : Bool} (h : Lexed d cs e o) (hd : d.Grows) : e.Grows := by
  induction h with
  | blank _ => exact hd
  | token _ hw _ ha _ ih => exact ih (hd.add ha fun a heq => (heq ▸ hw).grows)

/-- What was read is a pattern if it is one spelled out. -/
theorem Lexed.isPattern_of_asciiOnly {verbose o : Bool} {cs : List Char} {m : Mode}
    (h : Lexed (start verbose) cs e o) (he : e.asciiOnly.IsPattern m) : e.IsPattern m := by
  have hcontent : e.asciiOnly.level.content = e.level.content.asciiOnly :=
    Level.content_asciiOnly e.level
  refine he.of_below (List.map_eq_nil_iff.mp he.opened) ?_
  rw [hcontent]
  exact ⟨(h.grows (.start verbose)).level.content, fun m => Ast.modeAfter?_asciiOnly m _⟩

end Draft
end Gazetteer.Regex
