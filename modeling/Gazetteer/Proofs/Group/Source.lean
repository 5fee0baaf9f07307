import Gazetteer.CompiledGroup
import Gazetteer.Proofs.Reading.Groups

/-! The pattern of a group.

The terms of a group stand side by side in one pattern, each in a group of its own. If a term's
body leaves the parenthesis behind it alone (`closes`), then the whole pattern is the choice
between the bodies, with later indices for the groups of later terms
(`Draft.addText_alternatives`). -/
namespace Gazetteer.Regex

/-- What stands behind a body in the pattern of its group. -/
def closing (verbose : Bool) : List Char := if verbose then ['\n', ')'] else [')']

/-- Whether a parenthesis behind the body closes the group that the body stands in. In a verbose
pattern it stands on a line of its own, so the body has only to end as verbose as it began;
otherwise the body must not leave a comment open, which would take the parenthesis with it. -/
def closes (verbose : Bool) (body : List Char) : Bool :=
  if verbose then ((Draft.start verbose).addText body).any (·.verbose)
  else ((Draft.start verbose).addText (body ++ [')'])).isNone

namespace Draft

theorem Lexed.verbose_of_comment {d e : Draft} {cs : List Char} (h : Lexed d cs e true) :
    e.verbose = true := by
  generalize ho : true = o at h
  induction h with
  | @blank d b o hb =>
    subst ho
    cases hv : d.verbose with
    | true => rfl
    | false =>
      rw [hv] at hb
      exact absurd hb.2 (by simp)
  | token _ _ _ _ _ ih => exact ih ho

/-- A text that does not end in a verbose place leaves no comment open. -/
theorem Lexed.closed_of_plain {d e : Draft} {cs : List Char} {o : Bool} (h : Lexed d cs e o)
    (hv : e.verbose = false) : o = false := by
  cases o with
  | false => rfl
  | true => exact absurd (h.verbose_of_comment.symm.trans hv) (by simp)

theorem Lexed.of_plain {d e : Draft} {cs : List Char} (h : d.addText cs = some e)
    (hv : e.verbose = false) : Lexed d cs e false := by
  obtain ⟨o, h⟩ := addText_sound h
  exact h.closed_of_plain hv ▸ h

theorem isSolid_close (verbose : Bool) : isSolid verbose ')' := by cases verbose <;> decide

theorem skipBlanks_close (verbose : Bool) (tail : List Char) :
    skipBlanks verbose (')' :: tail) = ')' :: tail :=
  skipBlanks_of_isSolid (isSolid_close verbose) tail

theorem dropBlanks_newline {c : Char} (h : isSolid true c) (o : Bool) (cs : List Char) :
    dropBlanks o ('\n' :: c :: cs) = c :: cs := by
  cases o with
  | false =>
    rw [dropBlanks, if_neg (by simp), if_pos (by decide)]
    exact skipBlanks_of_isSolid h cs
  | true =>
    rw [dropBlanks, if_pos rfl]
    exact skipBlanks_of_isSolid h cs

/-- The end of a line is skipped, also where it ends a comment. -/
theorem skipBlanks_newline {c : Char} (h : isSolid true c) (o : Bool) (cs : List Char) :
    skipBlanks true (if o then dropBlanks true ('\n' :: c :: cs) else '\n' :: c :: cs) =
      c :: cs := by
  cases o with
  | false => exact dropBlanks_newline h false cs
  | true =>
    rw [if_pos rfl, dropBlanks_newline h]
    exact skipBlanks_of_isSolid h cs

/-- Behind a text that was read as `e`, with a comment open at its end if `o` is set, what is to close
the group around the text is read as a parenthesis. -/
def ClosedBy (e : Draft) (o : Bool) (close : List Char) : Prop :=
  ∀ tail, Neutral e.verbose o (close ++ tail) ∧
    skipBlanks e.verbose (if o then dropBlanks true (close ++ tail) else close ++ tail) = ')' :: tail

/-- Outside comments a parenthesis is read as it stands. -/
theorem closedBy_paren (e : Draft) : e.ClosedBy false [')'] := by
  intro tail
  refine ⟨⟨by simp, ?_, Escape.endsBoundary_of_ne (by decide)⟩, skipBlanks_close e.verbose tail⟩
  rw [if_neg (by simp), upcoming, List.cons_append, skipBlanks_close]
  simp

/-- In a comment a parenthesis is part of it. -/
theorem Lexed.addText_paren_of_comment {verbose : Bool} {body : List Char} {e : Draft}
    (h : Lexed (start verbose) body e true) : (start verbose).addText (body ++ [')']) = some e := by
  have hswallow : Neutral e.verbose true [')'] := by
    refine ⟨by simp, ?_, rfl⟩
    rw [h.verbose_of_comment]
    simp [upcoming, skipBlanks, dropBlanks]
  rw [h.addText_append hswallow]
  exact addText_nil e

/-- A parenthesis behind a body that leaves it alone is read as it stands, whatever stands behind
it. -/
theorem Lexed.closedBy {verbose o : Bool} {body : List Char} {e : Draft}
    (h : Lexed (start verbose) body e o) (hcloses : closes verbose body) :
    e.ClosedBy o (closing verbose) := by
  unfold closes at hcloses
  cases verbose with
  | true =>
    rw [if_pos rfl, h.addText] at hcloses
    have hv : e.verbose = true := hcloses
    intro tail
    have hskip := skipBlanks_newline (isSolid_close true) o tail
    rw [hv]
    refine ⟨⟨by simp [closing], ?_, Escape.endsBoundary_of_ne (by decide)⟩, hskip⟩
    show (skipBlanks true _).head? ≠ some '?'
    rw [show closing true ++ tail = '\n' :: ')' :: tail from rfl, hskip]
    simp
  | false =>
    rw [if_neg (by simp)] at hcloses
    cases o with
    | false => exact e.closedBy_paren
    | true =>
      rw [h.addText_paren_of_comment] at hcloses
      exact absurd hcloses (by simp)

/-- What the draft becomes by a term's alternative, where `e` is what became of the body. -/
def capturing (d : Draft) (symbol : String) (e : Draft) : Draft where
  level := d.level.push (.group (.capture (d.captures + 1) (some symbol))
    (e.level.content.renumber (d.captures + 1 + ·)))
  opened := []
  verbose := d.verbose
  captures := d.captures + 1 + e.captures
  names := e.names ++ symbol :: d.names

theorem readName_symbol {symbol : List Char} (h : ∀ c ∈ symbol, c ≠ '>') (tail : List Char)
    {x : String × List Char} (hx : Token.readName (symbol ++ '>' :: tail) = some x) :
    x = (.ofList symbol, tail) := by
  have htake : (symbol ++ '>' :: tail).takeWhile (· != '>') = symbol := by
    rw [List.takeWhile_append_of_pos (by simpa using h)]
    simp
  have hdrop : (symbol ++ '>' :: tail).dropWhile (· != '>') = '>' :: tail := by
    rw [List.dropWhile_append_of_pos (by simpa using h)]
    simp
  unfold Token.readName at hx
  rw [htake, hdrop] at hx
  split at hx
  · rename_i first others rest heq
    split at hx
    · obtain rfl := Option.some.inj hx
      obtain ⟨-, rfl⟩ := List.cons.inj heq
      rfl
    · exact absurd hx (by simp)
  · exact absurd hx (by simp)

/-- The draft in the group that a term's alternative begins with. -/
def opening (d : Draft) (symbol : String) : Draft where
  level := .empty
  opened := ⟨.capture (d.captures + 1) (some symbol), d.level, d.verbose⟩ :: d.opened
  verbose := d.verbose
  captures := d.captures + 1
  names := symbol :: d.names

/-- The beginning of a term's alternative is read as a token, if at all. -/
theorem read_opening {verbose : Bool} {symbol : String} (h : ∀ c ∈ symbol.toList, c ≠ '>')
    {rest : List Char} {x : Token × List Char}
    (hx : Token.read verbose (['(', '?', 'P', '<'] ++ symbol.toList ++ ['>'] ++ rest) = some x) :
    x = (.openGroup (.capture (some symbol)), rest) := by
  simp only [List.append_assoc, List.cons_append, List.nil_append] at hx
  have hread : Token.read verbose ('(' :: '?' :: 'P' :: '<' :: (symbol.toList ++ '>' :: rest)) =
      (Token.readName (symbol.toList ++ '>' :: rest)).map
        fun x => (.openGroup (.capture (some x.1)), x.2) := by
    show Token.readGroup (skipBlanks verbose ('?' :: _)) = _
    rw [skipBlanks_of_isSolid (by cases verbose <;> decide)]
    rfl
  rw [hread] at hx
  obtain ⟨y, hname, rfl⟩ := Option.map_eq_some_iff.mp hx
  rw [readName_symbol h _ hname, String.ofList_toList]

theorem add_opening {d x : Draft} {symbol : String}
    (h : d.add (.openGroup (.capture (some symbol))) = some x) : x = d.opening symbol := by
  have h : (if d.names.contains symbol then none else some _) = some x := h
  split at h
  · exact absurd h (by simp)
  · exact (Option.some.inj h).symm

theorem addText_opening {d z : Draft} {symbol : String} (hsymbol : ∀ c ∈ symbol.toList, c ≠ '>')
    {rest : List Char}
    (hz : d.addText (['(', '?', 'P', '<'] ++ symbol.toList ++ ['>'] ++ rest) = some z) :
    (d.opening symbol).addText rest = some z := by
  have hopen : isSolid d.verbose '(' := by cases d.verbose <;> decide
  rw [addText_eq, List.append_assoc, List.append_assoc, List.cons_append,
    skipBlanks_of_isSolid hopen, ← List.cons_append, ← List.append_assoc, ← List.append_assoc] at hz
  simp only [List.cons_append] at hz
  split at hz
  · exact absurd hz (by simp)
  · rename_i t rest' hread
    obtain ⟨rfl, rfl⟩ := Prod.mk.inj (read_opening hsymbol hread)
    obtain ⟨d₁, hadd, hz⟩ := Option.bind_eq_some_iff.mp hz
    rw [add_opening hadd] at hz
    exact hz

/-- A term's alternative is read as a group around its body. -/
theorem addText_alternative {verbose o : Bool} {body close : List Char} {d e z : Draft}
    {symbol : String} (h : Lexed (start verbose) body e o) (hopened : e.opened = [])
    (hclosed : e.ClosedBy o close) (hsymbol : ∀ c ∈ symbol.toList, c ≠ '>') (hd : d.opened = [])
    (hverbose : d.verbose = verbose) {tail : List Char}
    (hz : d.addText (['(', '?', 'P', '<'] ++ symbol.toList ++ ['>'] ++ body ++ close ++ tail) =
      some z) : (d.capturing symbol e).addText tail = some z := by
  rw [List.append_assoc, List.append_assoc] at hz
  have hz := addText_opening hsymbol hz
  obtain ⟨level, opened, verbose', captures, names⟩ := d
  obtain rfl : opened = [] := hd
  obtain rfl : verbose' = verbose := hverbose
  obtain ⟨hn, hskip⟩ := hclosed tail
  let inner : Draft := opening ⟨level, [], verbose', captures, names⟩ symbol
  have hstart : inner.within (start verbose') = inner := within_start rfl
  have hz : inner.addText _ = some z := hz
  rw [← hstart] at hz
  have hclose : (inner.within e).addText (')' :: tail) = some z :=
    (addText_congr (d := inner.within e) (hskip.trans (skipBlanks_close _ tail).symm)).symm.trans
      (h.addText_within hn hz)
  rw [← hclose]
  refine (addText_token (d := inner.within e) (b := []) (w := [')']) (Blank.nil _) .close
    (isSolid_close _) ?_).symm
  unfold add within
  rw [hopened]
  simp only [List.map_nil, List.nil_append, Level.content_renumber]
  rfl

end Draft

/-! ### Several terms -/

/-- A term's body with its symbol, read alone. -/
structure Part (verbose : Bool) where
  symbol : String
  body : List Char
  /-- What stands behind the body and closes the group around it. -/
  close : List Char
  draft : Draft
  inComment : Bool
  lexed : Draft.Lexed (.start verbose) body draft inComment
  opened : draft.opened = []
  closed : draft.ClosedBy inComment close
  symbolic : ∀ c ∈ symbol.toList, c ≠ '>'

namespace Part

variable {verbose : Bool}

/-- The alternative that the body becomes. -/
def text (p : Part verbose) : List Char :=
  ['(', '?', 'P', '<'] ++ p.symbol.toList ++ ['>'] ++ p.body ++ p.close

/-- The body as a pattern of its own. -/
def ast (p : Part verbose) : Ast := p.draft.level.content

/-- The index of the group around the body if `k` groups come before it; the groups of the body
come after. -/
def branch (k : Nat) (p : Part verbose) : Ast :=
  .group (.capture (k + 1) (some p.symbol)) (p.ast.renumber (k + 1 + ·))

/-- The parts as branches, if `k` groups come before them. -/
def branches (k : Nat) : List (Part verbose) → List Ast
  | [] => []
  | p :: parts => p.branch k :: branches (k + 1 + p.draft.captures) parts

/-- The indices of the groups around the bodies. -/
def slots (k : Nat) : List (Part verbose) → List Nat
  | [] => []
  | p :: parts => (k + 1) :: slots (k + 1 + p.draft.captures) parts

theorem lt_of_mem_slots {k i : Nat} {parts : List (Part verbose)} (h : i ∈ slots k parts) :
    k < i := by
  induction parts generalizing k with
  | nil => exact absurd h (List.not_mem_nil)
  | cons p parts ih =>
    rcases List.mem_cons.mp h with rfl | h
    · exact Nat.lt_succ_self k
    · have := ih h
      omega

theorem nodup_slots (k : Nat) (parts : List (Part verbose)) : (slots k parts).Nodup := by
  induction parts generalizing k with
  | nil => exact .nil
  | cons p parts ih =>
    refine List.nodup_cons.mpr ⟨fun h => ?_, ih _⟩
    have := lt_of_mem_slots h
    omega

theorem content_push (l : Level) (h : l.items = []) (a : Ast) :
    (l.push a).content = .ofBranches (l.branches.reverse ++ [a]) := by
  obtain ⟨branches, items⟩ := l
  obtain rfl : items = [] := h
  exact congrArg Ast.ofBranches (List.reverse_cons ..)

theorem bar_push (l : Level) (h : l.items = []) (a : Ast) :
    ((l.push a).bar).items = [] ∧ (l.push a).bar.branches = a :: l.branches := by
  obtain ⟨branches, items⟩ := l
  obtain rfl : items = [] := h
  exact ⟨rfl, rfl⟩

/-- The pattern of a group is the choice between its parts. -/
theorem addText_texts (p : Part verbose) (parts : List (Part verbose)) {d z : Draft}
    (hopened : d.opened = []) (hverbose : d.verbose = verbose) (hitems : d.level.items = [])
    (hz : d.addText (List.intercalate ['|'] ((p :: parts).map text)) = some z) :
    z.opened = [] ∧ z.level.content =
      .ofBranches (d.level.branches.reverse ++ branches d.captures (p :: parts)) := by
  induction parts generalizing p d with
  | nil =>
    rw [List.map_cons, List.map_nil, List.intercalate_singleton, ← List.append_nil p.text] at hz
    have hrest := Draft.addText_alternative p.lexed p.opened p.closed p.symbolic hopened hverbose hz
    rw [Draft.addText_nil] at hrest
    obtain rfl := Option.some.inj hrest
    exact ⟨rfl, content_push d.level hitems (p.branch d.captures)⟩
  | cons q parts ih =>
    rw [List.map_cons, List.map_cons, List.intercalate_cons_cons, List.append_assoc] at hz
    have hrest := Draft.addText_alternative p.lexed p.opened p.closed p.symbolic hopened hverbose hz
    have hbar : isSolid d.verbose '|' := by cases d.verbose <;> decide
    have hadd : (d.capturing p.symbol p.draft).add .bar = some _ := rfl
    rw [← List.nil_append (['|'] ++ _), Draft.addText_token (d := d.capturing p.symbol p.draft)
      (b := []) (Blank.nil _) .bar hbar hadd] at hrest
    obtain ⟨hitems', hbranches⟩ := bar_push d.level hitems (p.branch d.captures)
    obtain ⟨hzopened, hcontent⟩ := ih (d := { d.capturing p.symbol p.draft with
      level := (d.level.push (p.branch d.captures)).bar }) q rfl hverbose hitems' hrest
    refine ⟨hzopened, ?_⟩
    rw [hcontent]
    refine congrArg Ast.ofBranches ?_
    show (((d.level.push (p.branch d.captures)).bar).branches).reverse ++ _ = _
    rw [hbranches, List.reverse_cons, List.append_assoc]
    rfl

end Part
end Gazetteer.Regex
