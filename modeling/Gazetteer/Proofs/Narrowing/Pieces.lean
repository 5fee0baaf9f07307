import Gazetteer.Proofs.Narrowing.Spelling
import Gazetteer.Proofs.Outline.Pieces

/-! Narrowing a pattern piece by piece.

Narrowing takes escapes as pairs, yet it is the spelling of single characters by the place a scan
has got to (`asciiFrom_eq_respelledFrom`). What stands in the place of an escape leads a scan where
the escape led it (`passes_asciiEscape`), so a narrowed pattern is cut where the pattern is, none
of its escapes is narrowed again but word boundaries outside brackets, and whole words are asked
for before or after narrowing alike (`narrowsEscapes`). -/
namespace Gazetteer.Pattern

open Outline (isSeparator Passes Quiet inside)
open Regex (EscapeClass)
open Regex.Bracket (caret passes_caret)
open Regex.Escape (letter)

variable {verbose : Bool} {s : Outline} {p q cs : List Char} {c : Char}

/-! ### Spelling by the character -/

/-- What a character becomes: an escaped one is spelled together with its backslash, and any other
is copied. -/
def respell (spell : Bool → Char → List Char) (place : Outline × Char) : List Char :=
  if place.1.escaped then spell (place.1.brackets > 0) place.2
  else if place.2 = '\\' ∧ place.1.inComment = false then []
  else [place.2]

/-- The text from a place in a scan onwards with its escapes spelled anew. A backslash that
nothing follows is copied. -/
def respelledFrom (spell : Bool → Char → List Char) (verbose : Bool) (s : Outline)
    (cs : List Char) : List Char :=
  (s.places verbose cs).flatMap (respell spell) ++
    if (s.after verbose cs).escaped then ['\\'] else []

/-- The pattern with its escapes spelled anew. -/
def respelled (spell : Bool → Char → List Char) (verbose : Bool) (pattern : List Char) :
    List Char :=
  respelledFrom spell verbose .start pattern

theorem respelledFrom_cons (spell : Bool → Char → List Char) (verbose : Bool) (s : Outline)
    (c : Char) (cs : List Char) :
    respelledFrom spell verbose s (c :: cs) =
      respell spell (s, c) ++ respelledFrom spell verbose (s.next verbose c).1 cs := by
  unfold respelledFrom
  rw [Outline.places, List.flatMap_cons, List.append_assoc]
  rfl

section

variable (spell : Bool → Char → List Char)

theorem respell_escaped (he : s.escaped = true) (c : Char) :
    respell spell (s, c) = spell (s.brackets > 0) c := if_pos he

theorem respell_slash (he : s.escaped = false) (hc : s.inComment = false) :
    respell spell (s, '\\') = [] :=
  (if_neg (by simp [he])).trans (if_pos ⟨rfl, hc⟩)

theorem respell_copied (he : s.escaped = false) (h : ¬(c = '\\' ∧ s.inComment = false)) :
    respell spell (s, c) = [c] :=
  (if_neg (by simp [he])).trans (if_neg h)

end

/-- A character that is copied escapes nothing. -/
theorem escaped_next_of_copied (he : s.escaped = false) (h : ¬(c = '\\' ∧ s.inComment = false)) :
    (s.next verbose c).1.escaped = false := by
  by_cases hc : c = '\\'
  · have hcomment : s.inComment = true := by simpa [hc] using h
    simp [Outline.next, he, hcomment]
  · exact escaped_next he hc

/-- Behind an escape a scan is where it was, and a closing bracket closes. -/
theorem after_escape (he : s.escaped = false) (hc : s.inComment = false) (e : Char)
    (cs : List Char) :
    s.after verbose ('\\' :: e :: cs) = Outline.after verbose { s with fresh := false } cs := by
  obtain ⟨depth, brackets, fresh, escaped, inComment⟩ := s
  obtain rfl : escaped = false := he
  unfold Outline.after
  rw [List.foldl_cons, List.foldl_cons, Regex.next_slash rfl hc, Regex.next_escaped rfl]

/-- A text outside an escape is empty, a backslash, or an escape or a character that is copied with
a text behind it. -/
@[elab_as_elim]
theorem escape_induction (verbose : Bool)
    {motive : (s : Outline) → List Char → s.escaped = false → Prop}
    (nil : ∀ s he, motive s [] he)
    (dangling : ∀ s he, s.inComment = false → motive s ['\\'] he)
    (escape : ∀ (s : Outline) (e : Char) (cs : List Char) (he : s.escaped = false),
      s.inComment = false → motive { s with fresh := false } cs he → motive s ('\\' :: e :: cs) he)
    (copied : ∀ (s : Outline) (c : Char) (cs : List Char) (he : s.escaped = false)
      (h : ¬(c = '\\' ∧ s.inComment = false)),
      motive (s.next verbose c).1 cs (escaped_next_of_copied he h) → motive s (c :: cs) he)
    (s : Outline) (cs : List Char) (he : s.escaped = false) : motive s cs he := by
  induction hn : cs.length using Nat.strongRecOn generalizing s cs with
  | ind n ih =>
    cases cs with
    | nil => exact nil s he
    | cons c cs =>
      by_cases hopen : c = '\\' ∧ s.inComment = false
      · obtain ⟨rfl, hcomment⟩ := hopen
        cases cs with
        | nil => exact dangling s he hcomment
        | cons e cs =>
          refine escape s e cs he hcomment (ih cs.length ?_ { s with fresh := false } cs he rfl)
          simp only [← hn, List.length_cons]
          omega
      · refine copied s c cs he hopen
          (ih cs.length ?_ _ cs (escaped_next_of_copied he hopen) rfl)
        simp only [← hn, List.length_cons]
        omega

/-- Escapes that are spelled as they are leave the text as it is. -/
theorem respelledFrom_same (verbose : Bool) (s : Outline) (cs : List Char) :
    respelledFrom (fun _ c => ['\\', c]) verbose s cs =
      (if s.escaped then ['\\'] else []) ++ cs := by
  induction cs generalizing s with
  | nil => exact (List.append_nil _).symm
  | cons c cs ih =>
    rw [respelledFrom_cons, ih]
    cases he : s.escaped with
    | true =>
      rw [respell_escaped _ he, Regex.next_escaped he]
      rfl
    | false =>
      by_cases hopen : c = '\\' ∧ s.inComment = false
      · obtain ⟨rfl, hcomment⟩ := hopen
        rw [respell_slash _ he hcomment, Regex.next_slash he hcomment]
        rfl
      · rw [respell_copied _ he hopen, escaped_next_of_copied he hopen]
        rfl

theorem respelledFrom_congr {spell spell' : Bool → Char → List Char}
    (h : ∀ place ∈ s.places verbose cs, place.1.escaped →
      spell (place.1.brackets > 0) place.2 = spell' (place.1.brackets > 0) place.2) :
    respelledFrom spell verbose s cs = respelledFrom spell' verbose s cs := by
  induction cs generalizing s with
  | nil => rfl
  | cons c cs ih =>
    have hhead : respell spell (s, c) = respell spell' (s, c) := by
      unfold respell
      split
      · rename_i he
        exact h (s, c) (List.mem_cons_self ..) he
      · rfl
    rw [respelledFrom_cons, respelledFrom_cons, hhead,
      ih fun place hplace => h place (List.mem_cons_of_mem _ hplace)]

theorem respelledFrom_escape (spell : Bool → Char → List Char) (he : s.escaped = false)
    (hc : s.inComment = false) (e : Char) (cs : List Char) :
    respelledFrom spell verbose s ('\\' :: e :: cs) =
      spell (s.brackets > 0) e ++ respelledFrom spell verbose { s with fresh := false } cs := by
  obtain ⟨depth, brackets, fresh, escaped, inComment⟩ := s
  obtain rfl : escaped = false := he
  rw [respelledFrom_cons, respelledFrom_cons, respell_slash _ rfl hc, Regex.next_slash rfl hc,
    respell_escaped _ rfl, Regex.next_escaped rfl]
  rfl

/-- Narrowing spells each escape by itself. -/
theorem asciiFrom_eq_respelledFrom (he : s.escaped = false) :
    asciiFrom verbose s cs = respelledFrom asciiEscape verbose s cs := by
  induction s, cs, he using escape_induction verbose with
  | nil s he =>
    unfold respelledFrom Outline.after
    rw [List.foldl_nil, he]
    rfl
  | dangling s he hc =>
    rw [respelledFrom_cons, respell_slash _ he hc, Regex.next_slash he hc]
    rfl
  | escape s e cs he hc ih => rw [asciiFrom_escape he hc, respelledFrom_escape _ he hc, ih]
  | copied s c cs he hopen ih =>
    rw [asciiFrom_cons (escaped_next_of_copied he hopen), respelledFrom_cons,
      respell_copied _ he hopen, ih]
    rfl

/-! ### What stands in the place of an escape -/

/-- The letters of the classes that narrowing spells out. -/
def classLetters : List Char := ['w', 'W', 'd', 'D', 's', 'S']

theorem asciiSpelling_eq_none_iff {c : Char} :
    asciiSpelling c = none ↔ c ∉ 'b' :: classLetters := by
  unfold asciiSpelling
  split <;> simp_all [classLetters]

/-- The escapes of the text are none of those that narrowing spells out as classes. -/
def ClassFree (verbose : Bool) (s : Outline) (cs : List Char) : Prop :=
  ∀ place ∈ s.places verbose cs, place.1.escaped → place.2 ∉ classLetters

theorem ClassFree.append {a b : List Char} (ha : ClassFree verbose s a)
    (hb : ClassFree verbose (s.after verbose a) b) : ClassFree verbose s (a ++ b) := by
  induction a generalizing s with
  | nil => exact hb
  | cons c a ih =>
    intro place hplace
    rcases List.mem_cons.mp hplace with rfl | hplace
    · exact ha _ (List.mem_cons_self ..)
    · exact ih (fun place hplace => ha place (List.mem_cons_of_mem _ hplace)) hb place hplace

theorem classFree_of_notMem (he : s.escaped = false) (h : '\\' ∉ cs) :
    ClassFree verbose s cs := by
  induction cs generalizing s with
  | nil => exact fun _ hplace => absurd hplace List.not_mem_nil
  | cons c cs ih =>
    simp only [List.mem_cons, not_or] at h
    intro place hplace
    rcases List.mem_cons.mp hplace with rfl | hplace
    · exact fun hescaped => absurd hescaped (by simp [he])
    · exact ih (escaped_next he (Ne.symm h.1)) h.2 place hplace

/-- The scan gets from `s` to `t` over the text, which holds no separator and no escape that
narrowing spells out as a class. -/
structure Settles (verbose : Bool) (s : Outline) (cs : List Char) (t : Outline) : Prop
    extends Passes verbose s cs t where
  classFree : ClassFree verbose s cs

namespace Settles

variable {t r : Outline} {a b w : List Char} {d n : Nat} {f : Bool}

theorem append (h₁ : Settles verbose s a t) (h₂ : Settles verbose t b r) :
    Settles verbose s (a ++ b) r :=
  ⟨h₁.toPasses.append h₂.toPasses, h₁.classFree.append (by rw [h₁.after]; exact h₂.classFree)⟩

theorem of_notMem (h : Passes verbose s w t) (he : s.escaped = false) (hw : '\\' ∉ w) :
    Settles verbose s w t :=
  ⟨h, classFree_of_notMem he hw⟩

theorem escape (h : c ∉ classLetters) :
    Settles verbose (inside d n f) ['\\', c] (inside d n false) := by
  refine ⟨Regex.passes_inside_escape, fun place hplace hescaped => ?_⟩
  simp only [Outline.places, List.mem_cons, List.not_mem_nil, or_false] at hplace
  rcases hplace with rfl | rfl
  · exact absurd hescaped (by simp [inside])
  · exact h

theorem members (hw : ∀ c ∈ w, c ∉ ['[', ']', '\\']) (hhead : w.all (· == '^') = false) :
    Settles verbose (inside d (n + 1) f) w (inside d (n + 1) false) := by
  have hpasses := Regex.passes_inside (v := verbose) (k := d) (n := n) (f := f) hw
  rw [hhead, Bool.and_false] at hpasses
  exact .of_notMem hpasses rfl fun hslash => hw _ hslash (by simp)

theorem text (k : EscapeClass) :
    Settles verbose (inside d (n + 1) f) k.text (inside d (n + 1) false) := by
  cases k with
  | digit => exact members (by simp [EscapeClass.text]) rfl
  | word => exact members (by simp [EscapeClass.text]) rfl
  | space =>
    have hcode : ∀ c ∈ ['B', 'C'], Settles verbose (inside d (n + 1) false)
        ['\\', 'x', '0', c] (inside d (n + 1) false) := by
      intro c hc
      refine (escape (c := 'x') (by decide)).append (members (w := ['0', c]) ?_ rfl)
      simp only [List.mem_cons, List.not_mem_nil, or_false] at hc
      rcases hc with rfl | rfl <;> simp
    exact (escape (c := 't') (by decide)).append <| (escape (c := 'n') (by decide)).append <|
      (hcode 'B' (by simp)).append <| (hcode 'C' (by simp)).append <|
      (escape (c := 'r') (by decide)).append <| (escape (c := 'x') (by decide)).append <|
      members (w := ['2', '0']) (by simp) rfl

theorem bracketed (negated : Bool) (k : EscapeClass) :
    Settles verbose (inside d n f) ('[' :: (caret negated ++ (k.text ++ [']'])))
      (inside d n false) := by
  have hopen : Passes verbose (inside d n f) ['['] (inside d (n + 1) true) := by
    cases n with
    | zero => exact .single rfl rfl
    | succ n => exact .single rfl rfl
  have hcaret : Settles verbose (inside d (n + 1) true) (caret negated)
      (inside d (n + 1) true) := by
    cases negated with
    | false => exact .of_notMem .nil rfl (by decide)
    | true => exact .of_notMem passes_caret rfl (by decide)
  have hclose : Passes verbose (inside d (n + 1) false) [']'] (inside d n false) :=
    .cons_none rfl .nil
  exact (of_notMem hopen rfl (by decide)).append
    (hcaret.append ((text k).append (of_notMem hclose rfl (by decide))))

theorem boundary : Settles verbose (inside d 0 f) ['(', '?', '-', 'u', ':', '\\', 'b', ')']
    (inside d 0 false) := by
  have hopen : Passes verbose (inside d 0 f) ['(', '?', '-', 'u', ':'] (inside (d + 1) 0 f) := by
    refine .cons rfl rfl (.cons rfl rfl (.cons rfl rfl (.cons rfl rfl (.single rfl rfl))))
  have hclose : Passes verbose (inside (d + 1) 0 false) [')'] (inside d 0 false) :=
    .single rfl rfl
  exact (of_notMem hopen rfl (by decide)).append
    ((escape (c := 'b') (by decide)).append (of_notMem hclose rfl (by decide)))

end Settles

/-- What stands in the place of an escape leads a scan where the escape leads it. -/
theorem settles_asciiEscape (he : s.escaped = false) (hc : s.inComment = false) (e : Char) :
    Settles verbose s (asciiEscape (s.brackets > 0) e) { s with fresh := false } := by
  obtain ⟨depth, brackets, fresh, escaped, inComment⟩ := s
  obtain rfl : escaped = false := he
  obtain rfl : inComment = false := hc
  by_cases hclass : e ∈ classLetters
  · obtain ⟨k, negated, rfl⟩ : ∃ k negated, e = letter k negated := by
      simp only [classLetters, List.mem_cons, List.not_mem_nil, or_false] at hclass
      rcases hclass with rfl | rfl | rfl | rfl | rfl | rfl
      exacts [⟨.word, false, rfl⟩, ⟨.word, true, rfl⟩, ⟨.digit, false, rfl⟩, ⟨.digit, true, rfl⟩,
        ⟨.space, false, rfl⟩, ⟨.space, true, rfl⟩]
    cases brackets with
    | zero =>
      rw [show decide (0 > 0) = false from rfl, EscapeClass.asciiEscape_letter]
      exact .bracketed negated k
    | succ n =>
      rw [decide_eq_true (Nat.succ_pos n)]
      cases negated with
      | false =>
        rw [EscapeClass.asciiEscape_member]
        exact .text k
      | true =>
        rw [EscapeClass.asciiEscape_member_negated]
        exact .bracketed true k
  · by_cases hb : e = 'b'
    · subst hb
      cases brackets with
      | zero =>
        have htext : asciiEscape false 'b' = ['(', '?', '-', 'u', ':', '\\', 'b', ')'] := by decide
        rw [show decide (0 > 0) = false from rfl, htext]
        exact .boundary
      | succ n =>
        have htext : asciiEscape true 'b' = ['\\', 'b'] := by decide
        rw [decide_eq_true (Nat.succ_pos n), htext]
        exact .escape hclass
    · have hnone : asciiSpelling e = none := by
        rw [asciiSpelling_eq_none_iff, List.mem_cons, not_or]
        exact ⟨hb, hclass⟩
      rw [Regex.Escape.asciiEscape_of_none hnone]
      exact .escape hclass

/-! ### A scan over a narrowed text -/

/-- A scan gets to the same place over a text and over the narrowed text. -/
theorem after_asciiFrom (he : s.escaped = false) :
    s.after verbose (asciiFrom verbose s cs) = s.after verbose cs := by
  induction s, cs, he using escape_induction verbose with
  | nil s he => rfl
  | dangling s he hc => rfl
  | escape s e cs he hc ih =>
    rw [asciiFrom_escape he hc, Outline.after_append, (settles_asciiEscape he hc e).after, ih,
      after_escape he hc]
  | copied s c cs he hopen ih =>
    rw [asciiFrom_cons (escaped_next_of_copied he hopen)]
    exact ih

theorem quiet_escape_iff (he : s.escaped = false) (hc : s.inComment = false) (e : Char)
    (cs : List Char) :
    Quiet verbose s ('\\' :: e :: cs) ↔ Quiet verbose { s with fresh := false } cs := by
  obtain ⟨depth, brackets, fresh, escaped, inComment⟩ := s
  obtain rfl : escaped = false := he
  unfold Quiet
  rw [Outline.marks, Outline.marks, Regex.next_slash rfl hc, Regex.next_escaped rfl]
  simp [isSeparator]

/-- Narrowing brings no separator. -/
theorem quiet_asciiFrom (he : s.escaped = false) (h : Quiet verbose s cs) :
    Quiet verbose s (asciiFrom verbose s cs) := by
  induction s, cs, he using escape_induction verbose with
  | nil s he => exact h
  | dangling s he hc => exact h
  | escape s e cs he hc ih =>
    rw [asciiFrom_escape he hc]
    have hspelled : Settles verbose s _ _ := settles_asciiEscape he hc e
    intro mark hmark
    rw [Outline.marks_append, hspelled.after, List.mem_append] at hmark
    exact hmark.elim (hspelled.quiet mark) (ih ((quiet_escape_iff he hc e cs).mp h) mark)
  | copied s c cs he hopen ih =>
    rw [asciiFrom_cons (escaped_next_of_copied he hopen)]
    intro mark hmark
    rcases List.mem_cons.mp hmark with rfl | hmark
    · exact h _ (List.mem_cons_self ..)
    · exact ih (fun m hm => h m (List.mem_cons_of_mem _ hm)) mark hmark

theorem classFree_asciiFrom (he : s.escaped = false) :
    ClassFree verbose s (asciiFrom verbose s cs) := by
  induction s, cs, he using escape_induction verbose with
  | nil s he => exact fun _ hplace => absurd hplace List.not_mem_nil
  | dangling s he hc =>
    intro place hplace hescaped
    obtain rfl : place = (s, '\\') := List.mem_singleton.mp hplace
    exact absurd hescaped (by simp [he])
  | escape s e cs he hc ih =>
    rw [asciiFrom_escape he hc]
    have hspelled : Settles verbose s _ _ := settles_asciiEscape he hc e
    exact hspelled.classFree.append (by rw [hspelled.after]; exact ih)
  | copied s c cs he hopen ih =>
    rw [asciiFrom_cons (escaped_next_of_copied he hopen)]
    intro place hplace
    rcases List.mem_cons.mp hplace with rfl | hplace
    · exact fun hescaped => absurd hescaped (by simp [he])
    · exact ih place hplace

theorem Outline.Passes.narrowed {t : Outline} (h : Passes verbose s p t) (he : s.escaped = false) :
    Passes verbose s (Pattern.asciiFrom verbose s p) t :=
  ⟨(after_asciiFrom he).trans h.after, quiet_asciiFrom he h.quiet⟩

/-! ### Pieces -/

theorem asciiOnly_append (h : Outline.start.after verbose p = .start) (q : List Char) :
    asciiOnly verbose (p ++ q) = asciiOnly verbose p ++ asciiOnly verbose q := by
  unfold asciiOnly
  rw [asciiFrom_append (by rw [h]; rfl), h]

theorem asciiOnly_bar (q : List Char) :
    asciiOnly verbose ('|' :: q) = '|' :: asciiOnly verbose q :=
  asciiFrom_cons rfl q

/-- Narrowing narrows the pieces of a pattern. -/
theorem pieces_asciiOnly (verbose : Bool) (p : List Char) :
    pieces verbose (asciiOnly verbose p) = (pieces verbose p).map (asciiOnly verbose) := by
  induction p using pieces_induction verbose with
  | quiet p h =>
    have hquiet : Quiet verbose .start (asciiOnly verbose p) := quiet_asciiFrom rfl h
    rw [pieces_of_quiet h, pieces_of_quiet hquiet, List.map_singleton]
  | bar a q h ih =>
    have hpasses : Passes verbose .start (asciiOnly verbose a) .start := h.narrowed rfl
    rw [asciiOnly_append h.after, asciiOnly_bar, pieces_cons hpasses, ih, pieces_cons h,
      List.map_cons]

/-! ### Whole words -/

theorem inComment_next_false (hc : s.inComment = false) (c : Char) :
    (s.next false c).1.inComment = false := by
  obtain ⟨depth, brackets, fresh, escaped, inComment⟩ := s
  obtain rfl : inComment = false := hc
  unfold Outline.next Outline.inBrackets
  dsimp only
  split
  · rfl
  · split
    · contradiction
    · split
      · rfl
      · split
        · split
          · split <;> rfl
          · rfl
          · rfl
          · rfl
        · split <;> rfl

/-- A scan that knows no comments is in none. -/
theorem inComment_after_false (hc : s.inComment = false) (cs : List Char) :
    (s.after false cs).inComment = false := by
  induction cs generalizing s with
  | nil => exact hc
  | cons c cs ih => exact ih (inComment_next_false hc c)

theorem asciiOnly_anchor (x : List Char) :
    asciiOnly verbose (Anchor.unicode.text ++ x) = Anchor.ascii.text ++ asciiOnly verbose x :=
  asciiFrom_escape rfl rfl 'b' x

/-- The last anchor of a pattern that ends outside brackets and escapes is narrowed, too. -/
theorem asciiFrom_lastAnchor (hb : s.brackets = 0) (he : s.escaped = false)
    (hc : verbose = false → s.inComment = false) :
    asciiFrom verbose s ((if verbose then ['\n'] else []) ++ Anchor.unicode.text) =
      (if verbose then ['\n'] else []) ++ Anchor.ascii.text := by
  have hanchor : ∀ t : Outline, t.brackets = 0 → t.escaped = false → t.inComment = false →
      asciiFrom verbose t Anchor.unicode.text = Anchor.ascii.text := by
    intro t htb hte htc
    refine (asciiFrom_escape hte htc 'b' []).trans ?_
    rw [htb]
    rfl
  cases verbose with
  | false => exact hanchor s hb he (hc rfl)
  | true =>
    have hnext : ∃ f, s.next true '\n' = ({ s with inComment := false }, f) := by
      obtain ⟨depth, brackets, fresh, escaped, inComment⟩ := s
      obtain rfl : brackets = 0 := hb
      obtain rfl : escaped = false := he
      cases inComment <;> exact ⟨_, rfl⟩
    obtain ⟨f, hnext⟩ := hnext
    refine (asciiFrom_cons (by rw [hnext]; exact he) _).trans ?_
    rw [hnext]
    exact congrArg ('\n' :: ·) (hanchor _ hb he rfl)

/-- Whole words are asked for before or after narrowing alike. -/
theorem asciiOnly_bounded (hb : (Outline.start.after verbose p).brackets = 0)
    (he : (Outline.start.after verbose p).escaped = false) :
    asciiOnly verbose (bounded .unicode verbose p) =
      bounded .ascii verbose (asciiOnly verbose p) := by
  rw [bounded_eq, bounded_eq, pieces_asciiOnly]
  unfold boundedAlternatives
  rw [List.append_assoc, List.append_assoc, asciiOnly_anchor, List.append_assoc, List.append_assoc]
  refine congrArg (Anchor.ascii.text ++ ·) ?_
  induction p using pieces_induction verbose with
  | quiet p h =>
    have hc : verbose = false → (Outline.start.after verbose p).inComment = false := by
      rintro rfl
      exact inComment_after_false rfl p
    rw [pieces_of_quiet h, List.map_singleton, List.intercalate_singleton,
      List.intercalate_singleton]
    exact (asciiFrom_append he _).trans
      (congrArg (asciiOnly verbose p ++ ·) (asciiFrom_lastAnchor hb he hc))
  | bar a q h ih =>
    have hafter : Outline.start.after verbose (a ++ '|' :: q) = Outline.start.after verbose q := by
      rw [Outline.after_append, h.after]
      rfl
    rw [hafter] at hb he
    have hplain := intercalate_pieces_bar h (Anchor.unicode.text ++ '|' :: Anchor.unicode.text) id q
    rw [List.map_id, List.map_id, id] at hplain
    rw [hplain, intercalate_pieces_bar h]
    simp only [List.append_assoc, List.cons_append]
    rw [asciiOnly_append h.after, asciiOnly_anchor, asciiOnly_bar, asciiOnly_anchor, ih hb he]

/-! ### The structure of narrowing -/

/-- A word boundary outside brackets is spelled out, and nothing else. -/
def boundarySpelling (inBrackets : Bool) (c : Char) : List Char :=
  if c = 'b' ∧ inBrackets = false then Anchor.ascii.text else ['\\', c]

theorem asciiEscape_of_notMem {inBrackets : Bool} (h : c ∉ classLetters) :
    asciiEscape inBrackets c = boundarySpelling inBrackets c := by
  by_cases hb : c = 'b'
  · subst hb
    cases inBrackets <;> decide
  · have hnone : asciiSpelling c = none := by
      rw [asciiSpelling_eq_none_iff, List.mem_cons, not_or]
      exact ⟨hb, h⟩
    rw [Regex.Escape.asciiEscape_of_none hnone]
    exact (if_neg fun heq => hb heq.1).symm

/-- **Narrowing spells escapes, each by itself, and keeps the pieces of a pattern.** Of what it
spells out nothing is narrowed again but word boundaries outside brackets. -/
theorem narrowsEscapes (verbose : Bool) (p : List Char) :
    asciiOnly verbose p = respelled asciiEscape verbose p ∧
    respelled (fun _ c => ['\\', c]) verbose p = p ∧
    (∀ c, asciiSpelling c = none ↔ c ∉ 'b' :: classLetters) ∧
    (∀ place ∈ Outline.start.places verbose (asciiOnly verbose p),
      place.1.escaped → place.2 ∉ classLetters) ∧
    alternatives verbose (.ofList (asciiOnly verbose p)) = alternatives verbose (.ofList p) ∧
    pieces verbose (asciiOnly verbose p) = (pieces verbose p).map (asciiOnly verbose) ∧
    asciiOnly verbose p = List.intercalate ['|'] ((pieces verbose p).map (asciiOnly verbose)) ∧
    (∀ anchor, bounded anchor verbose p = boundedAlternatives anchor verbose (pieces verbose p) ∧
      bounded anchor verbose (asciiOnly verbose p) =
        boundedAlternatives anchor verbose ((pieces verbose p).map (asciiOnly verbose))) ∧
    ((Outline.start.after verbose p).brackets = 0 →
      (Outline.start.after verbose p).escaped = false →
      asciiOnly verbose (bounded .unicode verbose p) =
        bounded .ascii verbose (asciiOnly verbose p)) ∧
    asciiOnly verbose (asciiOnly verbose p) =
      respelled boundarySpelling verbose (asciiOnly verbose p) := by
  have hpieces := pieces_asciiOnly verbose p
  have hfree : ClassFree verbose .start (asciiOnly verbose p) := classFree_asciiFrom rfl
  refine ⟨asciiFrom_eq_respelledFrom rfl, respelledFrom_same verbose .start p,
    fun _ => asciiSpelling_eq_none_iff, hfree, ?_, hpieces, ?_, fun anchor => ⟨?_, ?_⟩,
    asciiOnly_bounded, ?_⟩
  · rw [← length_pieces, ← length_pieces, hpieces, List.length_map]
  · rw [← hpieces, intercalate_pieces]
  · exact bounded_eq anchor verbose p
  · rw [bounded_eq, hpieces]
  · refine (asciiFrom_eq_respelledFrom rfl).trans (respelledFrom_congr fun place hplace he => ?_)
    exact asciiEscape_of_notMem (hfree place hplace he)

/-- In brackets, in a comment and at the end of a pattern escapes are spelled in their own ways. -/
theorem narrowsEscapes_with_comment :
    let p := "\\b[^\\D\\b]#|\\w\n|\\d#".toList
    (Outline.start.after true p).brackets = 0 ∧ (Outline.start.after true p).escaped = false ∧
      asciiOnly true (bounded .unicode true p) = bounded .ascii true (asciiOnly true p) ∧
      pieces true (asciiOnly true p) =
        ["(?-u:\\b)[^[^0-9]\\b]#|\\w\n".toList, "[0-9]#".toList] := by
  intro p
  have hbrackets : (Outline.start.after true p).brackets = 0 := by decide
  have hescaped : (Outline.start.after true p).escaped = false := by decide
  obtain ⟨-, -, -, -, -, hpieces, -, -, hbounded, -⟩ := narrowsEscapes true p
  refine ⟨hbrackets, hescaped, hbounded hbrackets hescaped, ?_⟩
  rw [hpieces]
  decide

end Gazetteer.Pattern
