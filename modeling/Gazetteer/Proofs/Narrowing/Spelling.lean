import Gazetteer.Proofs.Narrowing.Meaning
import Gazetteer.Proofs.Narrowing.Text
import Gazetteer.Proofs.Reading.Primitive

/-! How classes are spelled out.

The text that stands in the place of an escape is read as the members of its class
(`Bracket.Run.spelled`), between the brackets that are open there, and as a class of its own
elsewhere (`Token.lexeme_spelled`). -/
namespace Gazetteer.Regex

open Pattern (asciiEscape asciiSpelling)

namespace EscapeClass

/-- The ASCII characters of a class as they are written between brackets. -/
def text : EscapeClass → List Char
  | .digit => ['0', '-', '9']
  | .space => ['\\', 't', '\\', 'n', '\\', 'x', '0', 'B', '\\', 'x', '0', 'C', '\\', 'r', '\\',
      'x', '2', '0']
  | .word => ['0', '-', '9', 'A', '-', 'Z', 'a', '-', 'z', '_']

variable (k : EscapeClass) (negated : Bool)

theorem asciiEscape_letter :
    asciiEscape false (Escape.letter k negated) = '[' :: (Bracket.caret negated ++ (k.text ++ [']'])) := by
  cases k <;> cases negated <;> decide

theorem asciiEscape_member : asciiEscape true (Escape.letter k false) = k.text := by
  cases k <;> decide

theorem asciiEscape_member_negated :
    asciiEscape true (Escape.letter k true) = '[' :: '^' :: (k.text ++ [']']) := by
  cases k <;> decide

end EscapeClass

/-! ### Which escapes are narrowed -/

namespace Escape

variable {verbose : Bool} {c : Char} {z : List Char} {a : Ast}

theorem Spells.read_nil (h : Spells verbose (c :: z) a) : read verbose (c :: z) = some (a, []) := by
  obtain ⟨rest, hread, hrest⟩ := h.reads [] fun _ => rfl
  rw [List.append_nil] at hread
  rcases hrest with rfl | rfl
  · exact hread
  · cases verbose <;> exact hread

theorem isSolid_of_isAlpha (verbose : Bool) (h : c.isAlpha || c == '-') : isSolid verbose c := by
  have hascii : Unicode.isAscii c := by
    rcases Bool.or_eq_true_iff.mp h with h | h
    · exact Unicode.isAscii_of_isAlphanum (Bool.or_eq_true_iff.mpr (.inl h))
    · exact beq_iff_eq.mp h ▸ rfl
  have hall := Unicode.forall_ascii (p := fun c => !(c.isAlpha || c == '-') || isSolid verbose c)
    (by cases verbose <;> decide +kernel) hascii
  rwa [h, Bool.not_true, Bool.false_or] at hall

/-- Where an edge is named, `\b` does not end before the name. -/
theorem endsBoundary_of_name {rest z : List Char} (h : readBoundary verbose z = some (a, rest))
    (hrest : rest ≠ z) (tl : List Char) : endsBoundary true (z ++ tl) = false := by
  unfold readBoundary at h
  dsimp only at h
  split at h
  · split at h
    · exact absurd h (by simp)
    · rename_i inner _ c more hskip
      split at h
      · rename_i hname
        obtain ⟨b, rfl, hblank, -⟩ := skipBlanks_split_cons hskip
        have hb : Blank true b := by
          cases verbose with
          | true => exact hblank
          | false => exact hblank ▸ Blank.nil true
        have hskip' : skipBlanks true (b ++ c :: more ++ tl) = c :: (more ++ tl) := by
          rw [List.append_assoc]
          exact hb.skip_cons (isSolid_of_isAlpha true hname) _
        simp only [List.cons_append, endsBoundary, hskip', hname, Bool.not_true]
      · exact absurd (Prod.mk.inj (Option.some.inj h)).2.symm hrest
  · exact absurd (Prod.mk.inj (Option.some.inj h)).2.symm hrest

/-- An escape whose text changes is a one-letter class or stands for a word edge. -/
theorem Spells.narrowed (h : Spells verbose (c :: z) a) :
    (asciiSpelling c = none ∧ ∀ k negated, a ≠ .set (.escape k negated)) ∨
      (∃ k negated, c = letter k negated ∧ z = [] ∧ a = .set (.escape k negated)) ∨
      c = 'b' ∧ (∃ edge, a = .assertion edge) ∧
        (z = [] ∧ a = .assertion .wordBoundary ∨
          ∀ tl, endsBoundary true (z ++ tl) = false) := by
  have hclass : ∀ k negated, c = letter k negated →
      z = [] ∧ a = .set (.escape k negated) := by
    rintro k negated rfl
    have hread := h.read_nil
    cases k <;> cases negated <;>
      exact (Prod.mk.inj (Option.some.inj hread)).symm.imp_right Eq.symm
  cases hspelling : asciiSpelling c with
  | none =>
    refine .inl ⟨rfl, ?_⟩
    rintro k negated rfl
    cases h.meaning
    cases k <;> cases negated <;> exact absurd hspelling (by decide)
  | some p =>
    refine .inr ?_
    unfold asciiSpelling at hspelling
    split at hspelling
    · exact .inl ⟨.word, false, rfl, hclass .word false rfl⟩
    · exact .inl ⟨.word, true, rfl, hclass .word true rfl⟩
    · exact .inl ⟨.digit, false, rfl, hclass .digit false rfl⟩
    · exact .inl ⟨.digit, true, rfl, hclass .digit true rfl⟩
    · exact .inl ⟨.space, false, rfl, hclass .space false rfl⟩
    · exact .inl ⟨.space, true, rfl, hclass .space true rfl⟩
    · have hread : readBoundary verbose z = some (a, []) := h.read_nil
      refine .inr ⟨rfl, edge_of_readBoundary hread, ?_⟩
      cases z with
      | nil => exact .inl ⟨rfl, (Prod.mk.inj (Option.some.inj hread)).1.symm⟩
      | cons e z => exact .inr (endsBoundary_of_name hread (by simp))
    · exact absurd hspelling (by simp)

theorem asciiEscape_of_none {inBrackets : Bool} (h : asciiSpelling c = none) :
    asciiEscape inBrackets c = ['\\', c] := by
  unfold asciiEscape
  rw [h]

end Escape

/-! ### Members -/

namespace Bracket

variable {verbose : Bool} {inner : Bracket} {outer : List Bracket} {tl : List Char} {s : ClassSet}
  {c : Char}

def pushAll (b : Bracket) (items : List ClassSet) : Bracket :=
  { b with items := items.reverse ++ b.items }

theorem rangesAt_of_ne (hsolid : isSolid verbose c) (hc : c ≠ '-') :
    rangesAt verbose (c :: tl) = false := by
  unfold rangesAt
  rw [skipBlanks_of_isSolid hsolid]
  split
  · contradiction
  · rename_i heq
    exact absurd (List.cons.inj heq).1 hc
  · rfl

theorem startsMember_of_ne (h : c ∉ ['[', ']', '&', '-', '~']) : startsMember (c :: tl) := by
  simp only [List.mem_cons, List.not_mem_nil, or_false, not_or] at h
  refine startsMember_of_not h.1 h.2.1 fun op hop => ?_
  unfold operator? at hop
  split at hop
  · exact absurd rfl h.2.2.1
  · exact absurd rfl h.2.2.2.1
  · exact absurd rfl h.2.2.2.2
  · exact absurd hop (by simp)

theorem Run.spelled_range {first last : Char}
    (hpair : (first, last) ∈ [('0', '9'), ('A', 'Z'), ('a', 'z')])
    (h : Run verbose (inner.push (.range first last)) outer tl s) :
    Run verbose inner outer (first :: '-' :: last :: tl) s := by
  have hends : first ∉ ['\\', '[', ']', '&', '-', '~'] ∧ last ∉ ['\\', ']', '-'] ∧
      isSolid true first ∧ isSolid true last ∧ first ≤ last := by
    simp only [List.mem_cons, Prod.mk.injEq, List.not_mem_nil, or_false] at hpair
    rcases hpair with ⟨rfl, rfl⟩ | ⟨rfl, rfl⟩ | ⟨rfl, rfl⟩ <;> decide
  obtain ⟨hfirst, hlast, hsolid, hsolid', hle⟩ := hends
  rw [List.mem_cons, not_or] at hfirst hlast
  have hafter : ∀ y, afterHyphen verbose (last :: y) = some last := by
    intro y
    simp only [isSolid, Bool.not_true, Bool.false_or, Bool.and_eq_true, Bool.not_eq_true',
      bne_iff_ne, ne_eq] at hsolid'
    cases verbose <;> simp [afterHyphen, dropToContent, hsolid']
  have hsolid : ∀ c, isSolid true c → [c].head?.all (isSolid verbose) := by
    intro c hc
    cases verbose
    · rfl
    · simpa using hc
  refine .member (b := []) (w := [first, '-', last]) (.nil _) ?_ (hsolid first ‹_›) h
  refine .range (u := [first]) (x := [last]) (.literal hfirst.1) (.nil _) (.nil _)
    (.literal hlast.1) (hsolid last hsolid') (if_pos hle) (startsMember_of_ne hfirst.2) fun y => ?_
  show afterHyphen verbose (last :: y) ∉ _
  rw [hafter]
  simpa using hlast.2

theorem Run.spelled_literal (hc : c ∉ ['\\', '[', ']', '&', '-', '~']) (hsolid : isSolid verbose c)
    (hr : rangesAt verbose tl = false) (h : Run verbose (inner.push (.literal c)) outer tl s) :
    Run verbose inner outer (c :: tl) s := by
  rw [List.mem_cons, not_or] at hc
  exact .member (b := []) (w := [c]) (.nil _)
    (.single (.literal hc.1) rfl (startsMember_of_ne hc.2) hr) (by simpa using hsolid) h

theorem Run.spelled_escape {e : List Char} {d : Char} {byte : Bool}
    (he : Escape.Spells verbose e (.literal d byte)) (hr : rangesAt verbose tl = false)
    (h : Run verbose (inner.push (.literal d)) outer tl s) :
    Run verbose inner outer ('\\' :: (e ++ tl)) s := by
  have hsolid : isSolid verbose '\\' := by cases verbose <;> decide
  exact .member (b := []) (w := '\\' :: e) (.nil _)
    (.single (.escape he) rfl (startsMember_of_ne (by decide)) hr) (by simpa using hsolid) h

theorem spells_char {c d : Char}
    (h : ∀ tail, Escape.read verbose (c :: tail) = some (.literal d false, tail)) :
    Escape.Spells verbose [c] (.literal d false) :=
  ⟨⟨c, [], [], rfl, .nil, by simp⟩, fun tail _ => ⟨tail, h tail, .inl rfl⟩⟩

theorem spells_code {x y d : Char} (hx : Escape.isHex x ∧ isSolid verbose x ∧ x ≠ '{')
    (hy : Escape.isHex y ∧ isSolid verbose y) (hd : charOfCode? (hexValue [x, y]) = some d) :
    Escape.Spells verbose ['x', x, y] (.literal d true) := by
  obtain ⟨hx, hsolid, hbrace⟩ := hx
  refine ⟨⟨'x', [x, y], [x, y], rfl, .char (.char .nil), fun _ c hc => ?_⟩, fun tail _ =>
    ⟨skipBlanks verbose tail, ?_, .inr rfl⟩⟩
  · simp only [List.mem_cons, List.not_mem_nil, or_false] at hc
    rcases hc with rfl | rfl
    · exact Escape.isPlain_of_isHex hx
    · exact Escape.isPlain_of_isHex hy.1
  · show Escape.readCode verbose 2 (x :: y :: tail) = _
    unfold Escape.readCode
    rw [skipBlanks_of_isSolid hsolid]
    split
    · rename_i heq
      exact absurd (List.cons.inj heq).1 hbrace
    · rw [takeBlanks, if_pos hx, skipBlanks_of_isSolid hy.2, takeBlanks, if_pos hy.1]
      simp only [takeBlanks, Option.map_some, hd]
      rfl

/-- Between brackets the text of a class is read as its members. -/
theorem Run.spelled (k : EscapeClass) (h : Run verbose (inner.pushAll k.members) outer tl s)
    (hr : rangesAt verbose tl = false) : Run verbose inner outer (k.text ++ tl) s := by
  have hslash : ∀ x, rangesAt verbose ('\\' :: x) = false := fun x =>
    rangesAt_of_ne (by cases verbose <;> decide) (by decide)
  cases k with
  | digit => exact .spelled_range (by simp) h
  | space =>
    have h : Run verbose ((((((inner.push (.literal '\t')).push (.literal '\n')).push
        (.literal '\x0b')).push (.literal '\x0c')).push (.literal '\r')).push (.literal ' '))
        outer tl s := h
    have h := h.spelled_escape (e := ['x', '2', '0']) (spells_code
      (by cases verbose <;> decide) (by cases verbose <;> decide) rfl) hr
    have h := h.spelled_escape (e := ['r']) (spells_char fun _ => rfl) (hslash _)
    have h := h.spelled_escape (e := ['x', '0', 'C']) (spells_code
      (by cases verbose <;> decide) (by cases verbose <;> decide) rfl) (hslash _)
    have h := h.spelled_escape (e := ['x', '0', 'B']) (spells_code
      (by cases verbose <;> decide) (by cases verbose <;> decide) rfl) (hslash _)
    have h := h.spelled_escape (e := ['n']) (spells_char fun _ => rfl) (hslash _)
    exact h.spelled_escape (e := ['t']) (spells_char fun _ => rfl) (hslash _)
  | word =>
    have h : Run verbose ((((inner.push (.range '0' '9')).push (.range 'A' 'Z')).push
        (.range 'a' 'z')).push (.literal '_')) outer tl s := h
    have h := h.spelled_literal (by decide) (by cases verbose <;> decide) hr
    exact .spelled_range (by simp) (.spelled_range (by simp) (.spelled_range (by simp) h))

/-! ### Classes of their own -/

theorem opening_spelled (k : EscapeClass) (negated : Bool) (x : List Char) :
    Opening verbose (k.text ++ x) (caret negated) ⟨negated, none, []⟩ := by
  obtain ⟨c, hnext, hc⟩ : ∃ c, upcoming verbose (k.text ++ x) = some c ∧ c ∉ ['^', '-', ']'] := by
    cases k
    · exact ⟨'0', by cases verbose <;> rfl, by decide⟩
    · exact ⟨'\\', by cases verbose <;> rfl, by decide⟩
    · exact ⟨'0', by cases verbose <;> rfl, by decide⟩
  simp only [List.mem_cons, List.not_mem_nil, or_false, not_or] at hc
  have hl : Leading verbose (k.text ++ x) [] [] :=
    .hyphens .nil (by simp) hnext hc.2.1 fun _ => hc.2.2
  cases negated with
  | false => exact .intro (n := []) (.none (by simpa [hnext] using hc.1)) hl
  | true => exact .intro (l := []) (.caret (b := []) (.nil _)) hl

theorem close_spelled (k : EscapeClass) (negated : Bool) :
    (pushAll ⟨negated, none, []⟩ k.members).close = .bracketed negated (.ofItems k.members) := by
  cases k <;> rfl

theorem Run.spelled_negated (k : EscapeClass)
    (h : Run verbose (inner.push (.bracketed true (.ofItems k.members))) outer tl s) :
    Run verbose inner outer ('[' :: '^' :: (k.text ++ [']']) ++ tl) s := by
  rw [← close_spelled] at h
  have hclose : Run verbose (pushAll ⟨true, none, []⟩ k.members) (inner :: outer) (']' :: tl) s :=
    .leave (b := []) (.nil _) h
  have hrun := Run.spelled k hclose (rangesAt_of_ne (by cases verbose <;> decide) (by decide))
  have hw : Morsel verbose (k.text ++ ']' :: tl) ['[', '^'] (.opening ⟨true, none, []⟩) :=
    .opening (opening_spelled k true _) (readAscii_of_head (by simp))
  simpa using Run.enter (b := []) (.nil _) hw hrun

end Bracket

namespace Token

theorem lexeme_letter (verbose : Bool) (k : EscapeClass) (negated : Bool) (tl : List Char) :
    Lexeme verbose tl ['\\', Escape.letter k negated] (.atom (.set (.escape k negated))) := by
  refine .escape ⟨⟨_, [], [], rfl, .nil, by simp⟩, fun tail _ => ⟨tail, ?_, .inl rfl⟩⟩ ?_
  · cases k <;> cases negated <;> rfl
  · cases k <;> cases negated <;> exact fun h => absurd h (by decide)

theorem lexeme_spelled (verbose : Bool) (k : EscapeClass) (negated : Bool)
    (tl : List Char) :
    Lexeme verbose tl ('[' :: (Bracket.caret negated ++ (k.text ++ [']'])))
      (.atom (.set (.bracketed negated (.ofItems k.members)))) := by
  have hclose : Bracket.Run verbose (.pushAll ⟨negated, none, []⟩ k.members) [] [']'] _ :=
    .close (b := []) (.nil _)
  have hrun := Bracket.Run.spelled k hclose
    (Bracket.rangesAt_of_ne (by cases verbose <;> decide) (by decide))
  rw [Bracket.close_spelled] at hrun
  exact .set (Bracket.opening_spelled k negated _) hrun

end Token
end Gazetteer.Regex
