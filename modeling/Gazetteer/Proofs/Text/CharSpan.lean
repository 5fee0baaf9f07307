import Gazetteer.Proofs.Text.Slice
import Gazetteer.Span

/-! Spans of characters.

A span of bytes covers whole characters of a text when its ends are in order and stand between
characters. Just then it can be told in characters (`Span.countsCharacters`), and nothing is lost by
it: the same text is covered, different spans stay different, and what stands behind something else
stays behind it.

What an offset in bytes has to do with one in characters is said of single places first
(`Text.charIndex?_eq_some_iff`, `Text.isValid_iff`). -/
namespace Gazetteer

/-! ### Places -/

namespace Text

variable {cs : List Char} {n m i j : Nat}

theorem exists_append_of_charIndex? (h : charIndex? cs n = some i) :
    ∃ l r, cs = l ++ r ∧ byteLength l = n ∧ l.length = i := by
  fun_induction charIndex? cs n generalizing i with
  | case1 cs =>
    obtain rfl := Option.some.inj h
    exact ⟨[], cs, rfl, rfl, rfl⟩
  | case2 n => exact absurd h (by simp)
  | case3 c cs n hc => exact absurd h (by simp)
  | case4 c cs n hc ih =>
    obtain ⟨j, hj, rfl⟩ := Option.map_eq_some_iff.mp h
    obtain ⟨l, r, rfl, hl, rfl⟩ := ih hj
    refine ⟨c :: l, r, rfl, ?_, rfl⟩
    rw [byteLength_cons, hl]
    omega

/-- A place comes behind as many characters as the text before it has. -/
theorem charIndex?_eq_some_iff :
    charIndex? cs n = some i ↔ ∃ l r, cs = l ++ r ∧ byteLength l = n ∧ l.length = i := by
  refine ⟨exists_append_of_charIndex?, ?_⟩
  rintro ⟨l, r, rfl, rfl, rfl⟩
  exact charIndex?_append l r

/-- The places in a text are the offsets before which its bytes are a text of their own. -/
theorem isValid_iff {text : String} :
    String.Pos.Raw.IsValid text ⟨n⟩ ↔ ∃ i, charIndex? text.toList n = some i := by
  rw [String.Pos.Raw.isValid_iff_exists_append]
  constructor
  · rintro ⟨l, r, rfl, hn⟩
    refine ⟨l.toList.length, charIndex?_eq_some_iff.mpr ⟨l.toList, r.toList, ?_, ?_, rfl⟩⟩
    · exact String.toList_append
    · rw [byteLength_toList]
      exact (congrArg String.Pos.Raw.byteIdx hn).symm
  · rintro ⟨i, hi⟩
    obtain ⟨l, r, htext, rfl, -⟩ := exists_append_of_charIndex? hi
    refine ⟨.ofList l, .ofList r, ?_, ?_⟩
    · rw [← String.ofList_append, ← htext, String.ofList_toList]
    · rw [String.rawEndPos, byteLength_ofList]

/-- Between two places stand as many characters as they are apart. -/
theorem exists_between (hi : charIndex? cs n = some i) (hj : charIndex? cs m = some j)
    (hle : n ≤ m) :
    ∃ l covered r, cs = l ++ covered ++ r ∧ byteLength l = n ∧ byteLength (l ++ covered) = m ∧
      l.length = i ∧ (l ++ covered).length = j := by
  obtain ⟨l, r, rfl, rfl, rfl⟩ := exists_append_of_charIndex? hi
  obtain ⟨l', r', heq, rfl, rfl⟩ := exists_append_of_charIndex? hj
  rcases List.append_eq_append_iff.mp heq with ⟨covered, rfl, rfl⟩ | ⟨covered, rfl, rfl⟩
  · exact ⟨l, covered, r', heq, rfl, rfl, rfl, rfl⟩
  · -- The first place is not behind the second, so there is nothing between them.
    cases covered with
    | nil => exact ⟨l', [], r, by simp, by simp, by simp, by simp, by simp⟩
    | cons c covered =>
      have hc := c.utf8Size_pos
      rw [byteLength_append, byteLength_cons] at hle
      omega

/-- Places are in the same order whether bytes or characters are counted. -/
theorem le_iff_of_charIndex? (hi : charIndex? cs n = some i) (hj : charIndex? cs m = some j) :
    n ≤ m ↔ i ≤ j := by
  rcases Nat.le_total n m with hle | hle
  · obtain ⟨l, covered, r, -, rfl, rfl, rfl, rfl⟩ := exists_between hi hj hle
    rw [List.length_append]
    exact iff_of_true hle (Nat.le_add_right _ _)
  · obtain ⟨l, covered, r, -, rfl, rfl, rfl, rfl⟩ := exists_between hj hi hle
    rw [byteLength_append, List.length_append]
    cases covered with
    | nil => simp
    | cons c covered =>
      have hc := c.utf8Size_pos
      rw [byteLength_cons, List.length_cons]
      omega

theorem eq_of_charIndex? (hi : charIndex? cs n = some i) (hj : charIndex? cs m = some i) :
    n = m :=
  Nat.le_antisymm ((le_iff_of_charIndex? hi hj).mpr (Nat.le_refl i))
    ((le_iff_of_charIndex? hj hi).mpr (Nat.le_refl i))

/-- The text between two places has the bytes between them. -/
theorem Parts.toByteArray_eq {text : String} {covered : List Char}
    (h : Parts text.toList n m covered) :
    (String.ofList covered).toByteArray = text.toByteArray.extract n m := by
  obtain ⟨⟨l, r, htext, rfl⟩, rfl⟩ := h
  have hsplit : text.toByteArray = (String.ofList l).toByteArray ++
      ((String.ofList covered).toByteArray ++ (String.ofList r).toByteArray) := by
    rw [← String.toByteArray_append, ← String.toByteArray_append, ← String.ofList_append,
      ← String.ofList_append, ← List.append_assoc, ← htext, String.ofList_toList]
  have hsize (cs : List Char) : byteLength cs = (String.ofList cs).toByteArray.size := by
    rw [String.size_toByteArray, byteLength_ofList]
  rw [hsplit, hsize l, hsize covered]
  exact (ByteArray.extract_append_size_add.trans (ByteArray.extract_append_eq_left rfl)).symm

end Text

/-! ### Spans -/

namespace Span

variable {s c : Span} {text : String}

/-- Whether the span covers whole characters of the text. -/
structure IsWhole (s : Span) (text : String) : Prop where
  le : s.start ≤ s.stop
  within : s.stop ≤ text.utf8ByteSize
  start : String.Pos.Raw.IsValid text ⟨s.start⟩
  stop : String.Pos.Raw.IsValid text ⟨s.stop⟩

/-- The characters that `c` counts in the text are those whose bytes `s` covers. -/
structure Counts (text : String) (s c : Span) : Prop where
  le : c.start ≤ c.stop
  within : c.stop ≤ text.length
  /-- Before the bytes of the span stand as many characters as are skipped. -/
  before : ∃ before : String, before.toByteArray = text.toByteArray.extract 0 s.start ∧
    before.length = c.start
  covered : ∃ covered : String, covered.toByteArray = text.toByteArray.extract s.start s.stop ∧
    s.slice? text = some covered ∧
    (text.toList.drop c.start).take c.length = covered.toList

theorem toCharSpan?_eq_some_iff : s.toCharSpan? text = some c ↔
    Text.charIndex? text.toList s.start = some c.start ∧
      Text.charIndex? text.toList s.stop = some c.stop ∧ s.start ≤ s.stop := by
  unfold toCharSpan?
  constructor
  · intro h
    obtain ⟨first, hfirst, h⟩ := Option.bind_eq_some_iff.mp h
    obtain ⟨last, hlast, h⟩ := Option.bind_eq_some_iff.mp h
    split at h
    · rename_i hle
      obtain rfl := Option.some.inj h
      exact ⟨hfirst, hlast, hle⟩
    · exact absurd h (by simp)
  · rintro ⟨hfirst, hlast, hle⟩
    rw [hfirst, hlast]
    exact if_pos hle

theorem exists_toCharSpan?_iff : (∃ c, s.toCharSpan? text = some c) ↔ s.IsWhole text := by
  constructor
  · rintro ⟨c, h⟩
    obtain ⟨hstart, hstop, hle⟩ := toCharSpan?_eq_some_iff.mp h
    have hvalid := Text.isValid_iff.mpr ⟨_, hstop⟩
    exact ⟨hle, hvalid.le_rawEndPos, Text.isValid_iff.mpr ⟨_, hstart⟩, hvalid⟩
  · rintro ⟨hle, -, hstart, hstop⟩
    obtain ⟨first, hfirst⟩ := Text.isValid_iff.mp hstart
    obtain ⟨last, hlast⟩ := Text.isValid_iff.mp hstop
    exact ⟨⟨first, last⟩, toCharSpan?_eq_some_iff.mpr ⟨hfirst, hlast, hle⟩⟩

theorem counts_of_toCharSpan? (h : s.toCharSpan? text = some c) : Counts text s c := by
  obtain ⟨hstart, hstop, hle⟩ := toCharSpan?_eq_some_iff.mp h
  obtain ⟨l, covered, r, htext, hl, hlc, hfirst, hlast⟩ := Text.exists_between hstart hstop hle
  rw [List.length_append] at hlast
  rw [Text.byteLength_append] at hlc
  have hbefore : Text.Parts text.toList 0 s.start l :=
    ⟨⟨[], covered ++ r, by simp [htext], rfl⟩, by omega⟩
  have hcovered : Text.Parts text.toList s.start s.stop covered :=
    ⟨⟨l, r, htext, hl.symm⟩, by omega⟩
  have hlength : c.length = covered.length := by
    rw [Span.length]
    omega
  refine ⟨by omega, ?_, ⟨.ofList l, hbefore.toByteArray_eq, ?_⟩,
    .ofList covered, hcovered.toByteArray_eq, ?_, ?_⟩
  · rw [← String.length_toList, htext, List.length_append, List.length_append]
    omega
  · rw [String.length_ofList, hfirst]
  · rw [slice?, hcovered.slice?_eq, Option.map_some]
  · rw [htext, ← hfirst, hlength, List.append_assoc, List.drop_left, List.take_left,
      String.toList_ofList]

/-- How spans of bytes and of characters of a text go together. -/
structure CountsCharacters (text : String) : Prop where
  whole : ∀ s : Span, (s.toCharSpan? text).isSome ↔ s.IsWhole text
  counts : ∀ s c : Span, s.toCharSpan? text = some c → Counts text s c
  injective : ∀ s s' c : Span, s.toCharSpan? text = some c → s'.toCharSpan? text = some c → s = s'
  order : ∀ s s' c c' : Span, s.toCharSpan? text = some c → s'.toCharSpan? text = some c' →
    (s.stop ≤ s'.start ↔ c.stop ≤ c'.start)

theorem countsCharacters (text : String) : CountsCharacters text where
  whole s := Option.isSome_iff_exists.trans exists_toCharSpan?_iff
  counts _ _ := counts_of_toCharSpan?
  injective s s' c h h' := by
    obtain ⟨hstart, hstop, -⟩ := toCharSpan?_eq_some_iff.mp h
    obtain ⟨hstart', hstop', -⟩ := toCharSpan?_eq_some_iff.mp h'
    obtain ⟨start, stop⟩ := s
    obtain ⟨start', stop'⟩ := s'
    obtain rfl : start = start' := Text.eq_of_charIndex? hstart hstart'
    obtain rfl : stop = stop' := Text.eq_of_charIndex? hstop hstop'
    rfl
  order s s' c c' h h' := by
    obtain ⟨-, hstop, -⟩ := toCharSpan?_eq_some_iff.mp h
    obtain ⟨hstart', -, -⟩ := toCharSpan?_eq_some_iff.mp h'
    exact Text.le_iff_of_charIndex? hstop hstart'

/-- An end inside a character is no place, and the sign of three bytes counts for one. -/
example : (⟨5, 8⟩ : Span).toCharSpan? "café €5" = none ∧
    (⟨6, 10⟩ : Span).toCharSpan? "café €5" = some ⟨5, 7⟩ := by
  decide

end Span
end Gazetteer
