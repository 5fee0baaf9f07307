import Gazetteer.Text.Offset

/-! Places in a text.

An offset is a place in a text when some characters of the text take up just that many bytes.
There the text comes apart (`Parts`), and what stands between two places is found by their offsets
(`Parts.slice?_eq`). -/
namespace Gazetteer.Text

variable {l m r cs : List Char} {start stop : Nat}

theorem byteLength_ofList (cs : List Char) : (String.ofList cs).utf8ByteSize = byteLength cs := by
  induction cs with
  | nil => rfl
  | cons c cs ih =>
    rw [String.ofList_cons, String.utf8ByteSize_append, String.utf8ByteSize_singleton, ih,
      byteLength_cons]

theorem byteLength_toList (s : String) : byteLength s.toList = s.utf8ByteSize := by
  rw [← byteLength_ofList, String.ofList_toList]

/-- The number of characters before a place is that of the text that takes up its bytes. -/
theorem charIndex?_append (l r : List Char) : charIndex? (l ++ r) (byteLength l) = some l.length := by
  induction l with
  | nil => cases r <;> rfl
  | cons c l ih =>
    obtain ⟨n, hn⟩ := Nat.exists_eq_succ_of_ne_zero (Nat.ne_of_gt c.utf8Size_pos)
    have hsize : byteLength (c :: l) = (n + byteLength l) + 1 := by
      rw [byteLength_cons, hn]
      omega
    rw [List.cons_append, hsize, charIndex?, if_neg (by omega),
      show n + byteLength l + 1 - c.utf8Size = byteLength l by omega, ih]
    rfl

/-- The text `cs` with two places in it, and the text `m` between them. -/
structure Parts (cs : List Char) (start stop : Nat) (m : List Char) : Prop where
  split : ∃ l r, cs = l ++ m ++ r ∧ start = byteLength l
  length : stop = start + byteLength m

namespace Parts

theorem le (h : Parts cs start stop m) : start ≤ stop := by
  rw [h.length]
  exact Nat.le_add_right ..

theorem le_byteLength (h : Parts cs start stop m) : stop ≤ byteLength cs := by
  obtain ⟨l, r, rfl, hstart⟩ := h.split
  rw [h.length, hstart, byteLength_append, byteLength_append]
  exact Nat.le_add_right ..

/-- Both offsets are places, as many characters apart as the text between them has. -/
theorem exists_charIndex? (h : Parts cs start stop m) :
    ∃ l r, cs = l ++ m ++ r ∧ charIndex? cs start = some l.length ∧
      charIndex? cs stop = some (l.length + m.length) := by
  obtain ⟨l, r, rfl, rfl⟩ := h.split
  refine ⟨l, r, rfl, ?_, ?_⟩
  · rw [List.append_assoc, charIndex?_append]
  · rw [h.length, ← byteLength_append, charIndex?_append, List.length_append]

theorem slice?_eq (h : Parts cs start stop m) : slice? cs start stop = some m := by
  obtain ⟨l, r, hcs, hstart, hstop⟩ := h.exists_charIndex?
  unfold slice?
  rw [hstart, hstop]
  simp only [Option.bind_eq_bind, Option.bind_some]
  rw [if_pos h.le, Nat.add_sub_cancel_left, hcs, List.append_assoc, List.drop_left, List.take_left]

theorem slice_eq {text : String} (h : Parts text.toList start stop m) :
    slice text start stop = .ofList m := by
  unfold slice
  rw [h.slice?_eq, Option.getD_some]

end Parts

end Gazetteer.Text
