import Gazetteer.Isolation
import Gazetteer.Proofs.Matching.Extent
import Gazetteer.Proofs.Narrowing.Draft
import Gazetteer.Proofs.Outline.Framing

/-! Patterns narrowed to ASCII.

A narrowed pattern has its one-letter classes spelled out and its word boundaries switched to ASCII
as text. It is the regex that the pattern would be if only these meant something else
(`Regex.narrows_of_narrowable`), as long as the scan that looks for escapes passes over the pattern
as the reader does and the letters that are spelled out gain no variants. -/
namespace Gazetteer.Regex

open Pattern (asciiOnly)

/-- Compiles a pattern whose one-letter classes and word boundaries are those of ASCII. -/
def ofAsciiPattern? (o : Options) (pattern : String) : Option Regex := do
  let a ← Ast.read o.verbose pattern
  let (node, _) ← Node.ofAsciiAst o.mode a
  return { node, groups := groupList node a.groupNames }

/-- The escapes of the pattern can be narrowed as text: the pattern is well formed, with brackets in
the place of its one-letter classes it is not nested too deeply, the scan agrees with the reader, no
word edge is named and no class gains a character when it is spelled out. -/
structure Narrowable (o : Options) (pattern : List Char) : Prop where
  wellFormed : (Ast.read o.verbose (.ofList pattern)).isSome
  nests : (Ast.read o.verbose (.ofList pattern)).all (·.asciiOnly.height ≤ Ast.heightLimit)
  agrees : (Draft.start o.verbose).agrees o.verbose pattern
  edges : namesNoEdge pattern
  staysAscii : (Ast.read o.verbose (.ofList pattern)).all (·.staysAscii o.mode)

/-! ### Reading -/

/-- The narrowed text is read as the pattern is, spelled out. -/
theorem Ast.read_asciiOnly {verbose : Bool} {pattern : List Char} {a : Ast}
    (h : read verbose (.ofList pattern) = some a) (hheight : a.asciiOnly.height ≤ heightLimit)
    (hagrees : (Draft.start verbose).agrees verbose pattern) (hedge : namesNoEdge pattern) :
    read verbose (.ofList (Pattern.asciiOnly verbose pattern)) = some a.asciiOnly := by
  obtain ⟨-, d, o, hlexed, hopened, rfl⟩ := read_eq_some h
  rw [String.toList_ofList] at hlexed
  have hread := hlexed.addText_asciiOnly hagrees hedge
  rw [← Level.content_asciiOnly] at hheight ⊢
  refine read_of_addText hread ?_ hheight
  show d.opened.map _ = []
  rw [hopened, List.map_nil]

/-- A narrowed pattern is the regex that the pattern is with the classes of ASCII. -/
theorem Narrowable.ofPattern?_eq {o : Options} {pattern : List Char} (h : Narrowable o pattern) :
    ofPattern? o (.ofList (asciiOnly o.verbose pattern)) = ofAsciiPattern? o (.ofList pattern) := by
  obtain ⟨a, ha⟩ := Option.isSome_iff_exists.mp h.wellFormed
  have hnests := h.nests
  have hstays := h.staysAscii
  rw [ha, Option.all_some] at hnests hstays
  unfold ofPattern? ofAsciiPattern?
  rw [Ast.read_asciiOnly ha (of_decide_eq_true hnests) h.agrees h.edges, ha]
  show (Node.ofAst o.mode a.asciiOnly).bind _ = (Node.ofAsciiAst o.mode a).bind _
  rw [Node.ofAst_asciiOnly hstays, Ast.groupNames_asciiOnly]

/-- A pattern is accepted with the classes of ASCII if it is accepted at all. -/
theorem isSome_ofAsciiPattern? (o : Options) (pattern : String) :
    (ofAsciiPattern? o pattern).isSome = (ofPattern? o pattern).isSome := by
  unfold ofAsciiPattern? ofPattern?
  cases Ast.read o.verbose pattern with
  | none => rfl
  | some a =>
    have h := congrArg Option.isSome (Node.mode_ofAsciiAst o.mode a)
    rw [Option.isSome_map, Option.isSome_map] at h
    have hbind : ∀ x : Option (Node × Mode), (x.bind fun p => some
        (Regex.mk p.1 (groupList p.1 a.groupNames))).isSome = x.isSome := fun x => by
      cases x <;> rfl
    exact (hbind _).trans (h.trans (hbind _).symm)

/-! ### A class on its own -/

section

variable (k : EscapeClass)

theorem Ast.read_letter (verbose negated : Bool) :
    read verbose (.ofList ['\\', Escape.letter k negated]) = some (.set (.escape k negated)) := by
  have hread := Draft.addText_token (d := .start verbose) (b := []) (Blank.nil _)
    (Token.lexeme_letter verbose k negated []) (Draft.isSolid_of_meta _ (by simp)) rfl
  exact read_of_addText (d := (Draft.start verbose).push (.set (.escape k negated)))
    (hread.trans (Draft.addText_nil _)) rfl (Nat.zero_le _)

/-- Spelled out, a class matches the variants of its ASCII characters too. -/
theorem ofPattern?_letter (o : Options) :
    ofPattern? o (.ofList (asciiOnly o.verbose ['\\', Escape.letter k false])) =
      some ⟨.set (CharSet.fold o.mode (k.charSet false)), [none]⟩ := by
  have hread := Ast.read_asciiOnly (Ast.read_letter k o.verbose false)
    (by cases k <;> decide) (by cases o.verbose <;> cases k <;> decide +kernel)
    (by cases k <;> decide)
  unfold ofPattern?
  rw [hread]
  show (((ClassSet.ofItems k.members).charSet? o.mode).bind _).map _ >>= _ = _
  rw [ClassSet.charSet?_ofItems, ClassSet.charSets?_members]
  rfl

theorem ofAsciiPattern?_letter (o : Options) :
    ofAsciiPattern? o (.ofList ['\\', Escape.letter k false]) =
      some ⟨.set (k.charSet false), [none]⟩ := by
  unfold ofAsciiPattern?
  rw [Ast.read_letter]
  rfl

end

/-! ### Meaning -/

/-- A narrowed pattern is accepted if the pattern is, and it is the regex that the pattern would be
with the classes and word boundaries of ASCII. What a narrowed class matches on its own is one
character of ASCII. -/
theorem narrows_of_narrowable (o : Options) :
    (∀ pattern, Narrowable o pattern →
      ((ofPattern? o (.ofList (asciiOnly o.verbose pattern))).isSome ↔
        (ofPattern? o (.ofList pattern)).isSome) ∧
      ofPattern? o (.ofList (asciiOnly o.verbose pattern)) =
        ofAsciiPattern? o (.ofList pattern)) ∧
    ∀ k : EscapeClass, k.gains o.mode = false →
      ∃ r, ofPattern? o (.ofList (asciiOnly o.verbose ['\\', Escape.letter k false])) = some r ∧
        ∀ text, ∀ m ∈ r.matchesIn text, ∃ c, Unicode.isAscii c ∧
          CompiledGroup.matchText text m = .ofList [c] := by
  constructor
  · intro pattern h
    rw [h.ofPattern?_eq, isSome_ofAsciiPattern?]
    exact ⟨Iff.rfl, rfl⟩
  · intro k h
    have hr := ofPattern?_letter k o
    rw [CharSet.fold_charSet h] at hr
    refine ⟨_, hr, fun text m hm => ?_⟩
    obtain ⟨c, hc, htext⟩ := exists_of_mem_matchesIn_set rfl hm
    exact ⟨c, EscapeClass.isAscii_of_charSet hc, htext⟩

/-- Nested classes, complements and comments are told apart, and a class that stands alone matches
ASCII only. -/
theorem narrows_nested_classes :
    let o : Options := ⟨false, true, false, true⟩
    let pattern := "\\b [[^\\W_]&&[\\d\\s]]+ (?i:\\D) # \\w".toList
    let narrowed :=
      "(?-u:\\b) [[^[^0-9A-Za-z_]_]&&[0-9\\t\\n\\x0B\\x0C\\r\\x20]]+ (?i:[^0-9]) # \\w".toList
    asciiOnly o.verbose pattern = narrowed ∧
      (∃ r, ofPattern? o (.ofList narrowed) = some r ∧
        ofAsciiPattern? o (.ofList pattern) = some r) ∧
      ∃ r, ofPattern? o (.ofList (asciiOnly o.verbose ['\\', 'w'])) = some r ∧
        ∀ text, ∀ m ∈ r.matchesIn text, ∃ c, Unicode.isAscii c ∧
          CompiledGroup.matchText text m = .ofList [c] := by
  intro o pattern narrowed
  have hnarrowed : asciiOnly o.verbose pattern = narrowed := by decide +kernel
  have h : Narrowable o pattern :=
    ⟨by decide +kernel, by decide +kernel, by decide +kernel, by decide +kernel, by decide +kernel⟩
  obtain ⟨haccepted, hsame⟩ := (narrows_of_narrowable o).1 pattern h
  obtain ⟨r, hr⟩ := Option.isSome_iff_exists.mp (haccepted.mpr (by decide +kernel))
  rw [hnarrowed] at hr hsame
  exact ⟨hnarrowed, ⟨r, hr, hsame.symm.trans hr⟩, (narrows_of_narrowable o).2 .word rfl⟩

/-- A named word edge is lost, a class that ends a range is not, and a letter that is spelled out
gains its variants. -/
theorem narrowing_changes_patterns :
    (¬ ∀ (o : Options) (pattern : List Char), (ofPattern? o (.ofList pattern)).isSome →
      (ofPattern? o (.ofList (asciiOnly o.verbose pattern))).isSome) ∧
    (¬ ∀ (o : Options) (pattern : List Char),
      (ofPattern? o (.ofList (asciiOnly o.verbose pattern))).isSome →
        (ofPattern? o (.ofList pattern)).isSome) ∧
    ¬ ∀ (o : Options) (pattern : List Char) (r ascii : Regex),
      ofPattern? o (.ofList (asciiOnly o.verbose pattern)) = some r →
      ofAsciiPattern? o (.ofList pattern) = some ascii →
      ∀ text, r.matchesIn text = ascii.matchesIn text := by
  refine ⟨fun h => ?_, fun h => ?_, fun h => ?_⟩
  · have := h ⟨false, false, false, false⟩ "\\b\x7bstart\x7d".toList (by decide +kernel)
    exact absurd this (by decide +kernel)
  · have := h ⟨false, false, false, false⟩ "[ -\\w]".toList (by decide +kernel)
    exact absurd this (by decide +kernel)
  · have hsame := h ⟨true, false, false, false⟩ _ _ _ (ofPattern?_letter .word _)
      (ofAsciiPattern?_letter .word _) "ſ"
    have hone : ∀ t : CharSet, ((Regex.mk (.set t) [none]).matchesIn "ſ").isEmpty = !t 'ſ' := by
      intro t
      cases ht : t 'ſ' <;>
        simp [matchesIn, matchesFrom, matchAt, Node.ends, Thread.start, Thread.take, ht]
    have hempty := congrArg List.isEmpty hsame
    rw [hone, hone, CharSet.fold_longS rfl] at hempty
    exact absurd hempty (by decide)

end Gazetteer.Regex
