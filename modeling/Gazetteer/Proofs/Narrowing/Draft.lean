import Gazetteer.Proofs.Narrowing.Class
import Gazetteer.Proofs.Outline.Anchors

/-! Reading a pattern with its escapes narrowed.

Where a scan and the reader agree, the narrowed text is read lexeme by lexeme as the text is, with
every one-letter class spelled out and every word boundary that of ASCII
(`Draft.Lexed.addText_asciiOnly`). -/
namespace Gazetteer.Regex

open Pattern (Outline asciiFrom asciiFrom_of_unescaped narrowedHeads unescaped_of_notMem)
open Pattern.Outline (Inert Passes Unescaped isOrdinary level)

/-! ### Drafts -/

def Level.asciiOnly (l : Level) : Level := ⟨l.branches.map .asciiOnly, l.items.map .asciiOnly⟩

def OpenGroup.asciiOnly (g : OpenGroup) : OpenGroup := { g with outer := g.outer.asciiOnly }

/-- Only an item can change when it is narrowed. -/
def Token.asciiOnly : Token → Token
  | .atom a => .atom a.asciiOnly
  | t => t

def Draft.asciiOnly (d : Draft) : Draft :=
  { d with level := d.level.asciiOnly, opened := d.opened.map .asciiOnly }

namespace Level

theorem branch_asciiOnly (l : Level) : l.asciiOnly.branch = l.branch.asciiOnly := by
  unfold branch
  rw [Ast.asciiOnly_ofItems, List.map_reverse]
  rfl

theorem content_asciiOnly (l : Level) : l.asciiOnly.content = l.content.asciiOnly := by
  unfold content
  rw [Ast.asciiOnly_ofBranches, List.map_reverse, List.map_cons, branch_asciiOnly]
  rfl

theorem repeatLast_asciiOnly {l l' : Level} {least : Nat} {most : Option Nat} {greedy : Bool}
    (h : l.repeatLast least most greedy = some l') :
    l.asciiOnly.repeatLast least most greedy = some l'.asciiOnly := by
  obtain ⟨a, items, hitems, hrep, rfl⟩ := Draft.repeatLast_some h
  unfold repeatLast asciiOnly
  rw [hitems, List.map_cons]
  exact if_pos ((Ast.isRepeatable_asciiOnly a).trans hrep)

end Level

namespace Draft

variable {d d' e : Draft} {t : Token}

theorem openGroup_asciiOnly {start : GroupStart} (h : d.openGroup start = some d') :
    d.asciiOnly.openGroup start = some d'.asciiOnly := by
  unfold openGroup at h
  split at h
  · obtain rfl := Option.some.inj h
    rfl
  · split at h
    · exact absurd h (by simp)
    · rename_i hname
      obtain rfl := Option.some.inj h
      exact if_neg hname
  · obtain rfl := Option.some.inj h
    rfl

/-- A token does to a narrowed draft what it does to the draft. -/
theorem add_asciiOnly (h : d.add t = some d') :
    d.asciiOnly.add t.asciiOnly = some d'.asciiOnly := by
  cases t with
  | openGroup start => exact openGroup_asciiOnly h
  | flags changes => exact Option.some.inj h ▸ rfl
  | closeGroup =>
    obtain ⟨lvl, opened, verbose, captures, names⟩ := d
    cases opened with
    | nil => exact absurd h (by simp [add])
    | cons g opened =>
      obtain rfl := Option.some.inj h
      have hcontent := congrArg (fun a => Draft.mk (g.outer.asciiOnly.push (.group g.kind a))
        (opened.map .asciiOnly) g.verbose captures names) (Level.content_asciiOnly lvl)
      exact congrArg some hcontent
  | bar =>
    obtain rfl := Option.some.inj h
    have hbranch := congrArg (fun a => Draft.mk ⟨a :: d.level.branches.map .asciiOnly, []⟩
      (d.opened.map .asciiOnly) d.verbose d.captures d.names) (Level.branch_asciiOnly d.level)
    exact congrArg some hbranch
  | repetition least most greedy =>
    obtain ⟨l, hl, rfl⟩ := Option.map_eq_some_iff.1 h
    show (d.level.asciiOnly.repeatLast least most greedy).map _ = _
    rw [Level.repeatLast_asciiOnly hl]
    rfl
  | atom a => exact Option.some.inj h ▸ rfl

/-! ### Lexemes -/

end Draft

/-- Where every `#` is escaped there are no comments, so every backslash escapes. -/
theorem slash_notMem_of_unescaped {verbose : Bool} {s : Outline} {w : List Char}
    (he : s.escaped = false) (hc : s.inComment = false) (hbare : bare '#' w = false)
    (h : Unescaped verbose s w) : '\\' ∉ w := by
  induction w generalizing s with
  | nil => exact List.not_mem_nil
  | cons c w ih =>
    have hslash : c ≠ '\\' := by
      rintro rfl
      have := h.1
      rw [next_slash he hc] at this
      exact absurd this (by simp)
    rw [bare_cons hslash, Bool.or_eq_false_iff, beq_eq_false_iff_ne] at hbare
    obtain ⟨he', hc'⟩ := next_steady verbose he hc hbare.1 hslash
    rw [List.mem_cons, not_or]
    exact ⟨Ne.symm hslash, ih he' hc' hbare.2 h.2⟩

theorem unescaped_congr {verbose scanned : Bool} {s : Outline} {w : List Char}
    (he : s.escaped = false) (hc : s.inComment = false)
    (hbare : verbose = scanned ∨ bare '#' w = false) (h : Unescaped verbose s w) :
    Unescaped scanned s w := by
  rcases hbare with rfl | hbare
  · exact h
  · exact unescaped_of_notMem he (slash_notMem_of_unescaped he hc hbare h)

/-- Whether `\b` names no edge anywhere in a text. -/
def namesNoEdge : List Char → Bool
  | '\\' :: 'b' :: rest => Escape.endsBoundary true rest && namesNoEdge ('b' :: rest)
  | _ :: rest => namesNoEdge rest
  | [] => true

theorem endsBoundary_of_namesNoEdge {rest : List Char} (h : namesNoEdge ('\\' :: 'b' :: rest)) :
    Escape.endsBoundary true rest :=
  (Bool.and_eq_true_iff.mp h).1

theorem namesNoEdge_of_append {b cs : List Char} (h : namesNoEdge (b ++ cs)) : namesNoEdge cs := by
  induction b with
  | nil => exact h
  | cons c b ih =>
    apply ih
    rw [List.cons_append] at h
    unfold namesNoEdge at h
    split at h
    · rename_i heq
      rw [(List.cons.inj heq).2]
      exact (Bool.and_eq_true_iff.mp h).2
    · rename_i heq
      rwa [(List.cons.inj heq).2]
    · contradiction

namespace Token

variable {verbose scanned : Bool} {tl w : List Char} {t : Token}

/-- Apart from classes and escapes, nothing in a lexeme is escaped and its token is the same. -/
theorem Lexeme.unescaped (h : Lexeme verbose tl w t) (hp : t.hasPlainName)
    (hclass : w.head? ≠ some '[') (hslash : w.head? ≠ some '\\') (k : Nat) :
    Unescaped verbose (level k) w ∧ t.asciiOnly = t := by
  have hbrace : isOrdinary '{' := by decide
  have hmark : isOrdinary '?' := by decide
  cases h with
  | capture _ | close | bar => exact ⟨unescaped_of_notMem rfl (by decide), rfl⟩
  | @group b h t hb hh =>
    refine ⟨⟨rfl, (hb.inert (k + 1)).unescaped.append ?_⟩, ?_⟩
    · rw [(hb.inert (k + 1)).after]
      exact unescaped_of_notMem rfl (hh.slash hp)
    · rcases hh.opens with ⟨start, rfl⟩ | ⟨changes, rfl⟩ <;> rfl
  | set _ _ => exact absurd rfl hclass
  | many _ _ => exact ⟨unescaped_of_notMem rfl (by simpa using Ne.symm hslash), rfl⟩
  | few _ => exact ⟨unescaped_of_notMem rfl (by simpa using Ne.symm hslash), rfl⟩
  | countedMany hk _ => exact ⟨((hk.inert.cons hbrace) k).unescaped, rfl⟩
  | countedFew hk hb =>
    have hrest := hk.inert.append (hb.inert.append (Inert.nil.cons hmark))
    exact ⟨((hrest.cons hbrace) k).unescaped, rfl⟩
  | escape _ _ => exact absurd rfl hslash
  | @single c a hc =>
    refine ⟨unescaped_of_notMem rfl (by simpa using Ne.symm hslash), ?_⟩
    unfold single? at hc
    split at hc
    · exact absurd hc (by simp)
    · split at hc <;> exact Option.some.inj hc ▸ rfl

/-- The text `w'` stands in the place of the lexeme `w` once escapes are narrowed, for a scan that
gets from level `k` to level `k'`. -/
structure Narrowed (verbose scanned : Bool) (k k' : Nat) (tl w w' : List Char) (t : Token) :
    Prop where
  text : ∀ x, asciiFrom scanned (level k) (w ++ x) = w' ++ asciiFrom scanned (level k') x
  head : w' = w ∨ ∃ c x, w' = c :: x ∧ c ∈ narrowedHeads
  reads : ∀ d d' : Draft, d.verbose = verbose → d.add t = some d' → ∀ tl',
    (t.lasts → Alike verbose tl tl') → d.asciiOnly.addText (w' ++ tl') = d'.asciiOnly.addText tl'

variable {k k' : Nat} {w' : List Char}

theorem addText_asciiOnly_of_lexeme (hsolid : w'.head?.all (isSolid verbose))
    (hw : ∀ tl', (t.lasts → Alike verbose tl tl') → Lexeme verbose tl' w' t.asciiOnly)
    (d d' : Draft) (hv : d.verbose = verbose) (hadd : d.add t = some d') (tl' : List Char)
    (ha : t.lasts → Alike verbose tl tl') :
    d.asciiOnly.addText (w' ++ tl') = d'.asciiOnly.addText tl' := by
  subst hv
  exact Draft.addText_token (d := d.asciiOnly) (b := []) (.nil _) (hw tl' ha) hsolid
    (Draft.add_asciiOnly hadd)

theorem asciiOnly_of_meaning {c : Char} {a : Ast} (h : Escape.Says c a)
    (hc : Pattern.asciiSpelling c = none) (hk : ∀ ks negated, a ≠ .set (.escape ks negated)) :
    a.asciiOnly = a := by
  cases h with
  | literal | property => rfl
  | oneLetter ks negated => exact absurd rfl (hk ks negated)
  | @assertion _ edge hb =>
    have hedge : edge ≠ .wordBoundary := by
      rintro rfl
      rw [hb rfl] at hc
      exact absurd hc (by decide)
    cases edge <;> first | rfl | exact absurd rfl hedge

theorem narrowed_escape {c : Char} {z : List Char} {a : Ast}
    (he : Escape.Spells verbose (c :: z) a)
    (hends : c :: z = ['b'] → Escape.endsBoundary verbose tl = true)
    (hp : a.hasPlainName) (hbare : verbose = scanned ∨ bare '#' z = false)
    (hedge : namesNoEdge ('\\' :: c :: z ++ tl))
    (hafter : (level k).after scanned ('\\' :: c :: z) = level k') :
    ∃ w', Narrowed verbose scanned k k' tl ('\\' :: c :: z) w' (.atom a) := by
  have hslash : isSolid verbose '\\' := Draft.isSolid_of_meta verbose (by simp)
  have hbracket : isSolid verbose '[' := by cases verbose <;> decide
  have htext : ∀ x, asciiFrom scanned (level k) ('\\' :: c :: z ++ x) =
      Pattern.asciiEscape false c ++ asciiFrom scanned (level k) (z ++ x) := fun x =>
    Pattern.asciiFrom_escape rfl rfl c (z ++ x)
  rcases he.narrowed with ⟨hnone, hk⟩ | ⟨ks, negated, rfl, rfl, rfl⟩ | ⟨rfl, ⟨edge, rfl⟩, ⟨rfl, hboundary⟩ | hnamed⟩
  · refine ⟨'\\' :: c :: z, fun x => ?_, .inl rfl,
      addText_asciiOnly_of_lexeme (by simpa using hslash) fun tl' halike => ?_⟩
    · obtain ⟨d, u, taken, heq, hspaced, hplain⟩ := he.shape
      obtain ⟨rfl, rfl⟩ := List.cons.inj heq
      have hinert := hspaced.inert fun e he => isOrdinary_of_isPlain (hplain hp e he)
      have hun := unescaped_congr rfl rfl hbare (hinert k).unescaped
      have hafter : (level k).after scanned z = level k' := hafter
      rw [htext, Escape.asciiEscape_of_none hnone, asciiFrom_of_unescaped hun, hafter]
      rfl
    · show Lexeme verbose tl' ('\\' :: c :: z) (.atom a.asciiOnly)
      rw [asciiOnly_of_meaning he.meaning hnone hk]
      exact (Lexeme.escape he hends).congr halike
  · refine ⟨_, fun x => ?_, .inr ⟨'[', _, rfl, by decide⟩,
      addText_asciiOnly_of_lexeme (by simpa using hbracket) fun tl' _ =>
        lexeme_spelled verbose ks negated tl'⟩
    have hafter : level k = level k' := hafter
    rw [htext, EscapeClass.asciiEscape_letter, hafter]
    rfl
  · obtain rfl : edge = .wordBoundary := by simpa using hboundary
    refine ⟨Pattern.Anchor.ascii.text, fun x => ?_, .inr ⟨'(', _, rfl, by decide⟩, ?_⟩
    · have hafter : level k = level k' := hafter
      have hescape : Pattern.asciiEscape false 'b' = Pattern.Anchor.ascii.text := by decide
      rw [htext, hescape, hafter]
      rfl
    · rintro d d' rfl hadd tl' halike
      obtain rfl := Option.some.inj hadd
      exact Draft.addText_anchor .ascii d.asciiOnly (halike rfl).edge
  · exact absurd (endsBoundary_of_namesNoEdge hedge) (by simp [hnamed tl])

/-- What stands in the place of a lexeme is read as what the lexeme is narrowed to. -/
theorem Lexeme.exists_narrowed (h : Lexeme verbose tl w t) (ha : t.agrees verbose w)
    (hbare : verbose = scanned ∨ w.head? = some '[' ∨ bare '#' w = false)
    (hsolid : w.head?.all (isSolid verbose)) (hedge : namesNoEdge (w ++ tl))
    (hafter : (level k).after scanned w = level k') :
    ∃ w', Narrowed verbose scanned k k' tl w w' t := by
  by_cases hclass : w.head? = some '['
  · obtain ⟨rest, rfl⟩ := List.head?_eq_some_iff.mp hclass
    cases h with
    | @set o u b s ho hu =>
      have hpass : Passes scanned _ _ _ := Bracket.passes_class ho hu ha k
      obtain rfl : k = k' := congrArg Outline.depth (hpass.after.symm.trans hafter)
      obtain ⟨w', htext, hlexeme⟩ := lexeme_asciiClass scanned ho hu ha k
      refine ⟨'[' :: w', htext, .inr ⟨'[', w', rfl, by decide⟩,
        addText_asciiOnly_of_lexeme (by simpa using hsolid) fun tl' _ => ?_⟩
      obtain ⟨negated, inner, rfl⟩ := hu.exists_bracketed
      exact hlexeme tl'
    | many hc _ | few hc => exact absurd hc (by simp [mark?])
    | single hc => exact absurd hc (by simp [single?])
  · have hbare := hbare.imp_right fun hw => hw.resolve_left hclass
    rw [agrees_of_head hclass] at ha
    by_cases hslash : w.head? = some '\\'
    · obtain ⟨rest, rfl⟩ := List.head?_eq_some_iff.mp hslash
      cases h with
      | escape he hends =>
        obtain ⟨c, z, -, rfl, -, -⟩ := he.shape
        exact narrowed_escape he hends ha hbare hedge hafter
      | many hc _ | few hc => exact absurd hc (by simp [mark?])
      | single hc => exact absurd hc (by simp [single?])
    · obtain ⟨hun, ht⟩ := h.unescaped ha hclass hslash k
      have hun := unescaped_congr rfl rfl hbare hun
      refine ⟨w, fun x => ?_, .inl rfl,
        addText_asciiOnly_of_lexeme hsolid fun tl' halike => ?_⟩
      · rw [asciiFrom_of_unescaped hun, hafter]
      · rw [ht]
        exact h.congr halike

end Token

namespace Draft

variable {scanned o : Bool} {d d' e : Draft} {b w tl cs tail : List Char} {t : Token}

/-- The text that a scan at the level of the draft makes of a text. -/
def narrowedText (scanned : Bool) (d : Draft) (cs : List Char) : List Char :=
  asciiFrom scanned (Outline.level d.opened.length) cs

theorem narrowedText_trailing (hb : Trailing d.verbose b o) (ha : d.agrees scanned b) :
    d.narrowedText scanned b = b := by
  have hcopy := asciiFrom_of_unescaped (agrees_blank hb ha d.opened.length).unescaped []
  rw [List.append_nil] at hcopy
  exact hcopy.trans (List.append_nil b)

/-- Where a lexeme is read, another text is read in its place. -/
theorem narrowedText_token (hb : Blank d.verbose b) (hw : Token.Lexeme d.verbose tl w t)
    (hsolid : w.head?.all (isSolid d.verbose)) (hadd : d.add t = some d')
    (ha : d.agrees scanned (b ++ (w ++ tl))) (hedge : namesNoEdge (b ++ (w ++ tl))) :
    ∃ w', d.narrowedText scanned (b ++ (w ++ tl)) = b ++ (w' ++ d'.narrowedText scanned tl) ∧
      Token.Narrowed d.verbose scanned d.opened.length d'.opened.length tl w w' t := by
  obtain ⟨htoken, hinert, hpass, -⟩ := agrees_token hb hw hsolid hadd ha
  have hbare := bare_of_agrees hb hw hsolid hadd ha
  have hafter : (Outline.level d.opened.length).after scanned w =
      Outline.level d'.opened.length := by
    by_cases hbar : t = .bar
    · subst hbar
      obtain rfl := hw.eq_bar
      obtain rfl := Option.some.inj hadd
      rfl
    · rw [length_opened hadd]
      exact (hpass hbar _).after
  obtain ⟨w', hw'⟩ := hw.exists_narrowed htoken hbare hsolid (namesNoEdge_of_append hedge) hafter
  refine ⟨w', ?_, hw'⟩
  unfold narrowedText
  rw [asciiFrom_of_unescaped (hinert _).unescaped, (hinert _).after, hw'.text]

/-- The narrowed text continues no token that the text does not continue. -/
theorem Lexed.alike_narrowed (h : Lexed d cs e o) (ha : d.agrees scanned cs)
    (hedge : namesNoEdge cs) (hn : Neutral e.verbose o tail) :
    Token.Alike d.verbose cs (d.narrowedText scanned cs ++ tail) := by
  cases h with
  | blank hb =>
    rw [narrowedText_trailing hb ha]
    exact hb.alike hn
  | @token _ d' _ b w tl t _ hb hw hsolid hadd _ =>
    obtain ⟨w', htext, hw'⟩ := narrowedText_token hb hw hsolid hadd ha hedge
    rw [htext, List.append_assoc, List.append_assoc]
    obtain ⟨c, x, rfl⟩ := hw.cons
    have hc : isSolid d.verbose c := by simpa using hsolid
    rcases hw'.head with rfl | ⟨c', x', rfl, hmem⟩
    · exact alike_of_heads hb hc hc id (hw.edge _)
    · refine alike_of_heads hb hc (Bracket.isSolid_of_narrowedHeads hmem) ?_
        (Escape.endsBoundary_of_ne ?_)
      · rintro rfl
        exact absurd hmem (by decide)
      · rintro rfl
        exact absurd hmem (by decide)

/-- The narrowed text before another one is read as the text is, with every item narrowed. -/
theorem Lexed.addText_asciiOnly_append (h : Lexed d cs e o) (ha : d.agrees scanned cs)
    (hedge : namesNoEdge cs) (hn : Neutral e.verbose o tail) :
    d.asciiOnly.addText (d.narrowedText scanned cs ++ tail) =
      e.asciiOnly.addText (if o then dropBlanks true tail else tail) := by
  induction h with
  | @blank d b o hb =>
    rw [narrowedText_trailing hb ha]
    exact addText_congr (d := d.asciiOnly) (hb.skip tail)
  | @token d d' e b w tl t o hb hw hsolid hadd hlexed ih =>
    obtain ⟨-, -, -, hrest⟩ := agrees_token hb hw hsolid hadd ha
    have hedge' : namesNoEdge tl := namesNoEdge_of_append (namesNoEdge_of_append hedge)
    obtain ⟨w', htext, hw'⟩ := narrowedText_token hb hw hsolid hadd ha hedge
    have hskip := addText_congr (d := d.asciiOnly)
      (hb.skip (w' ++ (d'.narrowedText scanned tl ++ tail)))
    rw [htext, List.append_assoc, List.append_assoc, hskip, hw'.reads d d' rfl hadd,
      ih hrest hedge' hn]
    intro hlasts
    rw [← verbose_of_lasts hlasts hadd]
    exact hlexed.alike_narrowed hrest hedge' hn

/-- The narrowed text is read as the text is, with every item narrowed. -/
theorem Lexed.addText_asciiOnly (h : Lexed d cs e o) (ha : d.agrees scanned cs)
    (hedge : namesNoEdge cs) :
    d.asciiOnly.addText (d.narrowedText scanned cs) = some e.asciiOnly := by
  have htext := h.addText_asciiOnly_append ha hedge (.nil e.verbose o)
  rw [List.append_nil] at htext
  rw [htext]
  cases o <;> exact addText_nil e.asciiOnly

end Draft
end Gazetteer.Regex
