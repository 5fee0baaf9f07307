import Gazetteer.Proofs.Matching.Outcome
import Gazetteer.Regex.Search

/-! Searching.

A match at a place is the first outcome there. A search finds the match at the least place that has
one (`Regex.find_eq_some_iff`), and all matches are found by a scan that knows nothing of
regexes but what there is at each place (`Regex.matchesIn_eq_scan`). -/
namespace Gazetteer

open Regex (Cursor Extent Node Thread)

namespace Regex

/-! ### A match at a place -/

theorem matchOf_onto (r : Regex) (start : Nat) (t : Thread) :
    r.matchOf start (t.onto []) = r.matchOf start t := by
  simp only [matchOf, Thread.onto, Thread.captured?, List.append_nil]

theorem matchAt_eq (r : Regex) (p : Cursor) :
    r.matchAt p = (r.node.outcomes p).head?.map (r.matchOf p.offset) := by
  unfold matchAt Node.outcomes
  rw [List.head?_map, Option.map_map]
  congr 1
  funext t
  exact (r.matchOf_onto p.offset t).symm

theorem start_of_matchAt {r : Regex} {p : Cursor} {m : Match} (h : r.matchAt p = some m) :
    m.extent.start = p.offset := by
  rw [matchAt_eq] at h
  obtain ⟨t, -, rfl⟩ := Option.map_eq_some_iff.mp h
  rfl

/-! ### The first match -/

theorem find_eq (r : Regex) (p : Cursor) :
    r.find p =
      match r.matchAt p with
      | some m => some m
      | none =>
        match p.rest with
        | [] => none
        | c :: rest => r.find (p.past c rest) := by
  obtain ⟨offset, before, rest⟩ := p
  show find.go r offset before rest = _
  rw [find.go.eq_def]
  cases rest <;> rfl

/-- A search finds the match at the least place that has one. -/
theorem find_eq_some_iff (r : Regex) (p : Cursor) (m : Match) :
    r.find p = some m ↔
      ∃ q, p.Later q ∧ r.matchAt q = some m ∧
        ∀ q', p.Later q' → q'.offset < q.offset → r.matchAt q' = none := by
  induction hn : p.rest.length generalizing p with
  | zero =>
    have hrest : p.rest = [] := List.eq_nil_of_length_eq_zero hn
    have honly : ∀ q, p.Later q → q = p := by
      intro q hq
      cases hq with
      | refl => rfl
      | step hp _ => exact absurd (hrest.symm.trans hp) (by simp)
    rw [find_eq, hrest]
    constructor
    · intro h
      refine ⟨p, .refl p, ?_, fun q hq hlt => ?_⟩
      · split at h
        · rename_i heq
          rw [heq, h]
        · exact absurd h (by simp)
      · rw [honly q hq] at hlt
        exact absurd hlt (Nat.lt_irrefl _)
    · rintro ⟨q, hq, hmatch, -⟩
      rw [honly q hq] at hmatch
      rw [hmatch]
  | succ n ih =>
    cases hrest : p.rest with
    | nil => rw [hrest] at hn; exact absurd hn (by simp)
    | cons c rest =>
      have hlater := ih (p.past c rest) (by rw [hrest] at hn; exact Nat.succ.inj hn)
      rw [find_eq, hrest]
      constructor
      · intro h
        split at h
        · rename_i m' hmatch
          obtain rfl := Option.some.inj h
          refine ⟨p, .refl p, hmatch, fun q hq hlt => ?_⟩
          exact absurd hq.offset_le (Nat.not_le_of_lt hlt)
        · rename_i hnone
          obtain ⟨q, hq, hmatch, hleast⟩ := hlater.mp h
          refine ⟨q, .step hrest hq, hmatch, fun q' hq' hlt => ?_⟩
          cases hq' with
          | refl => exact hnone
          | step hp hq' =>
            rw [hrest] at hp
            obtain ⟨rfl, rfl⟩ := List.cons.inj hp
            exact hleast q' hq' hlt
      · rintro ⟨q, hq, hmatch, hleast⟩
        cases hq with
        | refl => rw [hmatch]
        | step hp hq =>
          rw [hrest] at hp
          obtain ⟨rfl, rfl⟩ := List.cons.inj hp
          rw [hleast p (.refl p) hq.offset_lt]
          refine hlater.mpr ⟨q, hq, hmatch, fun q' hq' hlt => ?_⟩
          exact hleast q' (.step hrest hq') hlt

end Regex

/-! ### All matches -/

section

variable {α β : Type} (found? : Cursor → Option α) (extent : α → Extent)

/-- What a scan finds at a place: nothing before the place where it may go on, and nothing empty
right behind what was found last. -/
def scanAt (resume : Nat) (last : Option Nat) (p : Cursor) : Option α :=
  if p.offset < resume then none
  else (found? p).filter fun a => !((extent a).stop == p.offset && last == some p.offset)

/-- A scan for what `found?` gives at each place. What is found has an extent, and the scan goes on
behind it. -/
def scanFrom (resume : Nat) (last : Option Nat) (offset : Nat) (before : Option Char)
    (rest : List Char) : List α :=
  let found := scanAt found? extent resume last ⟨offset, before, rest⟩
  let resume := (found.map fun a => (extent a).stop).getD resume
  let last := (found.map fun a => (extent a).stop) <|> last
  found.toList ++
    match rest with
    | [] => []
    | c :: rest => scanFrom resume last (offset + c.utf8Size) (some c) rest

def scan (text : String) : List α := scanFrom found? extent 0 none 0 none text.toList

end

section

variable {α β : Type} {found? : Cursor → Option α} {extent : α → Extent}
  {resume : Nat} {last : Option Nat} {offset : Nat} {before : Option Char} {rest : List Char}

/-- What a scan reports is found at some place of the text. -/
theorem exists_of_mem_scanFrom {a : α}
    (h : a ∈ scanFrom found? extent resume last offset before rest) :
    ∃ p, Cursor.Later ⟨offset, before, rest⟩ p ∧ found? p = some a := by
  induction rest generalizing resume last offset before with
  | nil =>
    rw [scanFrom, List.append_nil, Option.mem_toList, scanAt] at h
    split at h
    · exact absurd h (by simp)
    · exact ⟨_, .refl _, (Option.filter_eq_some_iff.mp h).1⟩
  | cons c rest ih =>
    rw [scanFrom, List.mem_append, Option.mem_toList, scanAt] at h
    rcases h with h | h
    · split at h
      · exact absurd h (by simp)
      · exact ⟨_, .refl _, (Option.filter_eq_some_iff.mp h).1⟩
    · obtain ⟨p, hlater, hp⟩ := ih h
      exact ⟨p, .step rfl hlater, hp⟩

/-- Scans for things of the same extent go on alike. -/
theorem scanFrom_map {found'? : Cursor → Option β} {extent' : β → Extent} {g : α → β}
    (hfound : ∀ p, found'? p = (found? p).map g) (hextent : ∀ a, extent' (g a) = extent a) :
    scanFrom found'? extent' resume last offset before rest =
      (scanFrom found? extent resume last offset before rest).map g := by
  have hat : ∀ resume last p,
      scanAt found'? extent' resume last p = (scanAt found? extent resume last p).map g := by
    intro resume last p
    unfold scanAt
    rw [hfound]
    split
    · rfl
    · cases found? p with
      | none => rfl
      | some a =>
        simp only [Option.map_some, Option.filter_some, hextent]
        split <;> rfl
  have hstop : ∀ o : Option α,
      (o.map g).map (fun b => (extent' b).stop) = o.map fun a => (extent a).stop := by
    intro o
    rw [Option.map_map]
    congr 1
    funext a
    exact congrArg Extent.stop (hextent a)
  have hlist : ∀ o : Option α, (o.map g).toList = o.toList.map g := by
    intro o
    cases o <;> rfl
  induction rest generalizing resume last offset before with
  | nil => rw [scanFrom, scanFrom, hat, hlist, List.append_nil, List.append_nil]
  | cons c rest ih => rw [scanFrom, scanFrom, hat, hlist, hstop, ih, List.map_append]

theorem scan_map {found'? : Cursor → Option β} {extent' : β → Extent} {g : α → β}
    (hfound : ∀ p, found'? p = (found? p).map g) (hextent : ∀ a, extent' (g a) = extent a)
    (text : String) : scan found'? extent' text = (scan found? extent text).map g :=
  scanFrom_map hfound hextent

end

namespace Regex

theorem matchesFrom_eq_scanFrom (r : Regex) (resume : Nat) (last : Option Nat) (offset : Nat)
    (before : Option Char) (rest : List Char) :
    r.matchesFrom resume last offset before rest =
      scanFrom r.matchAt Match.extent resume last offset before rest := by
  induction rest generalizing resume last offset before with
  | nil =>
    rw [matchesFrom, scanFrom, scanAt]
    by_cases hresume : offset < resume
    · simp [hresume]
    · cases r.matchAt ⟨offset, before, []⟩ with
      | none => simp [hresume]
      | some m =>
        by_cases hstop : m.extent.stop = offset <;> by_cases hlast : last = some offset <;>
          simp [hresume, Option.filter_some, hstop, hlast]
  | cons c rest ih =>
    rw [matchesFrom, scanFrom, scanAt]
    by_cases hresume : offset < resume
    · simp [hresume, ih]
    · cases r.matchAt ⟨offset, before, c :: rest⟩ with
      | none => simp [hresume, ih]
      | some m =>
        by_cases hstop : m.extent.stop = offset <;> by_cases hlast : last = some offset <;>
          simp [hresume, Option.filter_some, hstop, hlast, ih]

/-- All matches of a regex are found by a scan. -/
theorem matchesIn_eq_scan (r : Regex) (text : String) :
    r.matchesIn text = scan r.matchAt Match.extent text :=
  r.matchesFrom_eq_scanFrom ..

end Regex
end Gazetteer
