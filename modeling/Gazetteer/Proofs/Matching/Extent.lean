import Mathlib.Data.List.Pairwise
import Gazetteer.Proofs.Matching.Search
import Gazetteer.Proofs.Text.Slice

/-! Where matches stand.

A match lies between two places of the text that was searched (`Regex.exists_parts_of_mem`). The
matches of a text stand one behind the other, and no two of them start at the same place
(`Regex.pairwise_matchesIn`). -/
namespace Gazetteer

open Regex (Cursor Extent Match)

namespace Regex.Cursor.Later

variable {p q : Cursor}

/-- What lies between two places is a stretch of the text. -/
theorem exists_stretch (h : p.Later q) :
    ∃ w, p.rest = w ++ q.rest ∧ q.offset = p.offset + Text.byteLength w := by
  induction h with
  | refl => exact ⟨[], rfl, rfl⟩
  | @step p q c rest hp _ ih =>
    obtain ⟨w, hw, hoffset⟩ := ih
    have hrest : rest = w ++ q.rest := hw
    refine ⟨c :: w, by rw [hp, hrest, List.cons_append], ?_⟩
    rw [hoffset, Text.byteLength_cons]
    exact Nat.add_assoc ..

/-- Two places of a text, one behind the other, with the text between them. -/
theorem exists_parts {text : String} (hp : (Cursor.ofText text).Later p) (hq : p.Later q) :
    ∃ w, Text.Parts text.toList p.offset q.offset w := by
  obtain ⟨l, hl, hstart⟩ := hp.exists_stretch
  obtain ⟨w, hw, hstop⟩ := hq.exists_stretch
  refine ⟨w, ⟨l, q.rest, ?_, ?_⟩, hstop⟩
  · rw [List.append_assoc, ← hw]
    exact hl
  · rw [hstart]
    exact Nat.zero_add _

end Regex.Cursor.Later

/-! ### Scans -/

section

variable {α : Type} {found? : Cursor → Option α} {extent : α → Extent}
  {resume : Nat} {last : Option Nat} {offset : Nat} {before : Option Char} {rest : List Char}

theorem scanAt_eq_some {p : Cursor} {a : α} (h : scanAt found? extent resume last p = some a) :
    resume ≤ p.offset ∧ found? p = some a := by
  unfold scanAt at h
  split at h
  · exact absurd h (by simp)
  · rename_i hle
    exact ⟨Nat.le_of_not_lt hle, (Option.filter_eq_some_iff.mp h).1⟩

/-- What a scan finds starts no earlier than the scan may go on. -/
theorem le_start_of_mem_scanFrom (hstart : ∀ p a, found? p = some a → (extent a).start = p.offset)
    (horder : ∀ p a, found? p = some a → (extent a).start ≤ (extent a).stop) {a : α}
    (h : a ∈ scanFrom found? extent resume last offset before rest) :
    resume ≤ (extent a).start ∧ offset ≤ (extent a).start := by
  induction rest generalizing resume last offset before with
  | nil =>
    rw [scanFrom, List.append_nil, Option.mem_toList] at h
    obtain ⟨hresume, hfound⟩ := scanAt_eq_some h
    rw [hstart _ _ hfound]
    exact ⟨hresume, Nat.le_refl _⟩
  | cons c rest ih =>
    rw [scanFrom, List.mem_append, Option.mem_toList] at h
    rcases h with h | h
    · obtain ⟨hresume, hfound⟩ := scanAt_eq_some h
      rw [hstart _ _ hfound]
      exact ⟨hresume, Nat.le_refl _⟩
    · obtain ⟨hresume, hoffset⟩ := ih h
      refine ⟨?_, Nat.le_trans (Nat.le_add_right ..) hoffset⟩
      cases hat : scanAt found? extent resume last ⟨offset, before, c :: rest⟩ with
      | none =>
        rw [hat] at hresume
        exact hresume
      | some b =>
        rw [hat] at hresume
        obtain ⟨hb, hfound⟩ := scanAt_eq_some hat
        have hstop : (extent b).stop ≤ (extent a).start := hresume
        have hle := horder _ _ hfound
        rw [hstart _ _ hfound] at hle
        exact Nat.le_trans hb (Nat.le_trans hle hstop)

/-- What a scan finds stands one behind the other, no two at the same place. -/
theorem pairwise_scanFrom (hstart : ∀ p a, found? p = some a → (extent a).start = p.offset)
    (horder : ∀ p a, found? p = some a → (extent a).start ≤ (extent a).stop) :
    (scanFrom found? extent resume last offset before rest).Pairwise fun a b =>
      (extent a).stop ≤ (extent b).start ∧ (extent a).start < (extent b).start := by
  induction rest generalizing resume last offset before with
  | nil =>
    rw [scanFrom, List.append_nil]
    cases scanAt found? extent resume last ⟨offset, before, []⟩ with
    | none => exact .nil
    | some a => exact List.pairwise_singleton ..
  | cons c rest ih =>
    rw [scanFrom]
    cases hat : scanAt found? extent resume last ⟨offset, before, c :: rest⟩ with
    | none => exact ih
    | some a =>
      refine List.pairwise_cons.mpr ⟨fun b hb => ?_, ih⟩
      obtain ⟨hresume, hoffset⟩ := le_start_of_mem_scanFrom hstart horder hb
      rw [hstart _ _ (scanAt_eq_some hat).2]
      exact ⟨hresume, Nat.lt_of_lt_of_le (Nat.lt_add_of_pos_right c.utf8Size_pos) hoffset⟩

end

/-! ### Matches -/

namespace Regex

variable {r : Regex} {p : Cursor} {m : Match} {text : String}

/-- A match ends at a place behind its start. -/
theorem exists_later_of_matchAt (h : r.matchAt p = some m) :
    ∃ q, p.Later q ∧ m.extent = ⟨p.offset, q.offset⟩ := by
  rw [matchAt_eq] at h
  obtain ⟨t, ht, rfl⟩ := Option.map_eq_some_iff.mp h
  exact ⟨t.place, (Node.leads_of_mem_outcomes (List.mem_of_mem_head? ht)).1, rfl⟩

theorem exists_place_of_mem (h : m ∈ r.matchesIn text) :
    ∃ p, (Cursor.ofText text).Later p ∧ r.matchAt p = some m := by
  rw [matchesIn_eq_scan] at h
  exact exists_of_mem_scanFrom h

/-- A match covers a stretch of the text. -/
theorem exists_parts_of_mem (h : m ∈ r.matchesIn text) :
    ∃ w, Text.Parts text.toList m.extent.start m.extent.stop w := by
  obtain ⟨p, hp, hmatch⟩ := exists_place_of_mem h
  obtain ⟨q, hq, hextent⟩ := exists_later_of_matchAt hmatch
  rw [hextent]
  exact hp.exists_parts hq

/-- A match of one character covers that character. -/
theorem exists_of_mem_matchesIn_set {s : Regex.CharSet} (hr : r.node = .set s)
    (hm : m ∈ r.matchesIn text) :
    ∃ c, s c ∧ Text.slice text m.extent.start m.extent.stop = .ofList [c] := by
  obtain ⟨p, hp, hmatch⟩ := exists_place_of_mem hm
  unfold matchAt at hmatch
  rw [hr] at hmatch
  obtain ⟨t, ht, rfl⟩ := Option.map_eq_some_iff.mp hmatch
  have htake : (Thread.start p).take s = some t := Option.mem_toList.mp (List.mem_of_mem_head? ht)
  obtain ⟨c, rest, hrest, hc, rfl⟩ := Thread.take_eq_some htake
  obtain ⟨l, hl, hstart⟩ := hp.exists_stretch
  have hl : text.toList = l ++ p.rest := hl
  have hrest : p.rest = c :: rest := hrest
  refine ⟨c, hc, Text.Parts.slice_eq ⟨⟨l, rest, ?_, ?_⟩, rfl⟩⟩
  · rw [hl, hrest, List.append_assoc]
    rfl
  · exact hstart.trans (Nat.zero_add _)

/-- The matches of a text do not overlap, and no two of them start at the same place. -/
theorem pairwise_matchesIn (r : Regex) (text : String) :
    (r.matchesIn text).Pairwise fun a b =>
      a.extent.stop ≤ b.extent.start ∧ a.extent.start < b.extent.start := by
  rw [matchesIn_eq_scan]
  refine pairwise_scanFrom (fun _ _ => start_of_matchAt) fun p m hm => ?_
  obtain ⟨q, hq, hextent⟩ := exists_later_of_matchAt hm
  rw [hextent]
  exact hq.offset_le

end Regex
end Gazetteer
