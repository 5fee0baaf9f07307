import Gazetteer.Regex.Bracket
import Gazetteer.Proofs.Reading.Escape

/-! What a class takes.

A class is a run of pieces with blanks between (`Run`), and a piece is the text of a member, an
operator or a nested opening (`Morsel`). The reader takes exactly the texts of this form
(`readPiece_sound` and `readPiece_complete`, `read_sound` and `read_complete`). A piece ends
where it does because of the text that comes next, but of that only a few things count
(`Eases`), and none of them lies behind the last bracket of the class. -/
namespace Gazetteer.Regex.Bracket

/-! ### Items and members -/

/-- The text `u` is an item of a class and says `a`. -/
inductive Item (verbose : Bool) : List Char → Ast → Prop
  | literal {c : Char} (hc : c ≠ '\\') : Item verbose [c] (.literal c false)
  | escape {e : List Char} {a : Ast} (h : Escape.Spells verbose e a) : Item verbose ('\\' :: e) a

/-- Whether an item can be part of a class. -/
def isMember (a : Ast) : Bool := (member? a).isSome

theorem isMember_of_range? {a b : Ast} {s : ClassSet} (h : range? a b = some s) :
    isMember a ∧ isMember b := by
  unfold range? at h
  split at h
  · exact ⟨rfl, rfl⟩
  · exact absurd h (by simp)

theorem readItem_sound {verbose : Bool} {cs rest : List Char} {a : Ast}
    (h : readItem verbose cs = some (a, rest)) :
    ∃ u tl, cs = u ++ tl ∧ Trimmed verbose tl rest ∧ Item verbose u a := by
  unfold readItem at h
  split at h
  · exact absurd h (by simp)
  · obtain ⟨e, tl, rfl, hrest, hspells, -⟩ := Escape.read_sound h
    exact ⟨'\\' :: e, tl, rfl, hrest, .escape hspells⟩
  · rename_i c cs hslash
    obtain ⟨rfl, rfl⟩ := Prod.mk.inj (Option.some.inj h)
    refine ⟨[c], cs, rfl, .inl rfl, .literal ?_⟩
    rintro rfl
    exact hslash rfl

theorem Item.reads {verbose : Bool} {u : List Char} {a : Ast} (h : Item verbose u a)
    (hm : isMember a) (tail : List Char) :
    ∃ rest, readItem verbose (u ++ tail) = some (a, rest) ∧ Trimmed verbose tail rest := by
  cases h with
  | @literal c hc =>
    refine ⟨tail, ?_, .inl rfl⟩
    rw [List.singleton_append, readItem.eq_3 verbose c tail hc]
  | escape hspells =>
    obtain ⟨rest, hread, hrest⟩ := hspells.reads tail (by
      rintro rfl
      -- A word boundary is no member.
      obtain ⟨r, hr, -⟩ := hspells.reads [] (fun _ => rfl)
      obtain ⟨rfl, -⟩ := Prod.mk.inj (Option.some.inj hr)
      exact absurd hm (by decide))
    exact ⟨rest, hread, hrest⟩

theorem Item.cons {verbose : Bool} {u : List Char} {a : Ast} (h : Item verbose u a) :
    ∃ c x, u = c :: x := by
  cases h with
  | literal _ => exact ⟨_, _, rfl⟩
  | escape _ => exact ⟨_, _, rfl⟩

/-! ### After a hyphen -/

/-- Whether the text makes a range of the item before it: it goes on with a hyphen, and a
bracket or a second hyphen does not follow. The end of the text counts as one. -/
def rangesAt (verbose : Bool) (tail : List Char) : Bool :=
  match skipBlanks verbose tail with
  | [] => true
  | '-' :: more => !(afterHyphen verbose more == some ']' || afterHyphen verbose more == some '-')
  | _ => false

theorem dropToContent_append {c : Char} (hs : Unicode.isSpace c = false) (hc : c ≠ '#')
    (inComment : Bool) (x : List Char) :
    ∃ d, ∀ y, (dropToContent inComment (x ++ c :: y)).head? = some d := by
  induction x generalizing inComment with
  | nil => exact ⟨c, fun y => by simp [dropToContent, hs, hc]⟩
  | cons e x ih =>
    simp only [List.cons_append, dropToContent]
    split
    · exact ih inComment
    · split
      · exact ih true
      · exact ⟨e, fun _ => rfl⟩

/-- What decides about a hyphen is found up to the next character that counts. -/
theorem afterHyphen_append {verbose : Bool} {c : Char} (hc : isSolid verbose c) (x : List Char) :
    ∃ d, ∀ y, afterHyphen verbose (x ++ c :: y) = some d := by
  cases verbose with
  | false =>
    cases x with
    | nil => exact ⟨c, fun _ => rfl⟩
    | cons e x => exact ⟨e, fun _ => rfl⟩
  | true =>
    simp only [isSolid, Bool.not_true, Bool.false_or, Bool.and_eq_true, Bool.not_eq_true',
      bne_iff_ne, ne_eq] at hc
    obtain ⟨d, hd⟩ := dropToContent_append hc.1 hc.2 false x
    exact ⟨d, fun y => by simp [afterHyphen, hd y]⟩

/-! ### Openings -/

/-- The text before the negation of a class and the negation itself, if `tl` comes after. -/
inductive Negation (verbose : Bool) (tl : List Char) : List Char → Bool → Prop
  | none (h : upcoming verbose tl ≠ some '^') : Negation verbose tl [] false
  | caret {b : List Char} (hb : Blank verbose b) : Negation verbose tl (b ++ ['^']) true

theorem negation_sound {verbose negated : Bool} {cs rest : List Char}
    (h : readNegation verbose (skipBlanks verbose cs) = (negated, rest)) :
    ∃ n tl, cs = n ++ tl ∧ rest = skipBlanks verbose tl ∧ Negation verbose tl n negated := by
  unfold readNegation at h
  split at h
  · rename_i tl hskip
    obtain ⟨rfl, rfl⟩ := Prod.mk.inj h
    obtain ⟨b, rfl, hb, -⟩ := skipBlanks_split_cons hskip
    exact ⟨b ++ ['^'], tl, by simp, rfl, .caret hb⟩
  · rename_i hcaret
    obtain ⟨rfl, rfl⟩ := Prod.mk.inj h
    refine ⟨[], cs, rfl, rfl, .none fun hnext => ?_⟩
    obtain ⟨more, hmore⟩ := List.head?_eq_some_iff.mp hnext
    exact hcaret more hmore

theorem negation_complete {verbose negated : Bool} {n tl : List Char}
    (h : Negation verbose tl n negated) :
    readNegation verbose (skipBlanks verbose (n ++ tl)) = (negated, skipBlanks verbose tl) := by
  cases h with
  | none hnext =>
    rw [List.nil_append]
    unfold readNegation
    split
    · rename_i heq
      exact absurd (by simp [upcoming, heq]) hnext
    · rfl
  | caret hb =>
    rw [List.append_assoc, List.singleton_append, hb.skip_cons (by cases verbose <;> decide)]
    rfl

/-- The members that stand for themselves because they come first: a bracket, or hyphens. -/
inductive Leading (verbose : Bool) (tl : List Char) : List Char → List ClassSet → Prop
  | bracket {b : List Char} {c : Char} (hb : Blank verbose b)
    (hnext : upcoming verbose tl = some c) : Leading verbose tl (b ++ [']']) [.literal ']']
  | hyphens {u taken : List Char} {c : Char} (hu : Spaced verbose u taken)
    (ht : ∀ d ∈ taken, d = '-') (hnext : upcoming verbose tl = some c) (hc : c ≠ '-')
    (hne : taken = [] → c ≠ ']') : Leading verbose tl u (taken.map .literal)

theorem Leading.next {verbose : Bool} {tl l : List Char} {items : List ClassSet}
    (h : Leading verbose tl l items) : ∃ c more, skipBlanks verbose tl = c :: more := by
  have of_next : ∀ {c}, upcoming verbose tl = some c → ∃ d more, skipBlanks verbose tl = d :: more :=
    fun hnext => ⟨_, List.head?_eq_some_iff.mp hnext⟩
  cases h with
  | bracket _ hnext => exact of_next hnext
  | hyphens _ _ hnext _ _ => exact of_next hnext

theorem leading_sound {verbose : Bool} {cs rest : List Char} {c : Char} {items : List ClassSet}
    (h : readLeading verbose (skipBlanks verbose cs) = (items, c :: rest)) :
    ∃ l tl, cs = l ++ tl ∧ c :: rest = skipBlanks verbose tl ∧ Leading verbose tl l items := by
  unfold readLeading at h
  split at h
  · rename_i tl hskip
    obtain ⟨rfl, hrest⟩ := Prod.mk.inj h
    obtain ⟨b, rfl, hb, -⟩ := skipBlanks_split_cons hskip
    exact ⟨b ++ [']'], tl, by simp, hrest.symm, .bracket hb (c := c) (by simp [upcoming, hrest])⟩
  · rename_i hbracket
    obtain ⟨rfl, hrest⟩ := Prod.mk.inj h
    obtain ⟨u, tl, rfl, hrest', hspaced, htest, hnext⟩ :=
      spanBlanks_sound (rfl : spanBlanks verbose (· == '-') (skipBlanks verbose cs) = _)
    rw [hrest] at hrest'
    have hc : upcoming verbose tl = some c := by simp [upcoming, ← hrest']
    refine ⟨u, tl, rfl, hrest', .hyphens hspaced (fun d hd => by simpa using htest d hd) hc
      (by simpa using hnext c hc) ?_⟩
    rintro htaken rfl
    exact hbracket rest (hrest ▸ (spanBlanks_of_nil htaken).symm)

theorem leading_complete {verbose : Bool} {tl l : List Char} {items : List ClassSet}
    (h : Leading verbose tl l items) :
    readLeading verbose (skipBlanks verbose (l ++ tl)) = (items, skipBlanks verbose tl) := by
  cases h with
  | bracket hb _ =>
    rw [List.append_assoc, List.singleton_append, hb.skip_cons (by cases verbose <;> decide)]
    rfl
  | @hyphens u taken c hu ht hnext hc hne =>
    have hsolid : isSolid verbose '-' := by cases verbose <;> decide
    have hspan := spanBlanks_complete hu
      (fun d hd => by rw [ht d hd]; exact hsolid) (fun d hd => show (d == '-') = true by simp [ht d hd])
      (fun d hd => by
        obtain rfl := Option.some.inj (hd.symm.trans hnext)
        simpa using hc)
    unfold readLeading
    split
    · rename_i more heq
      -- A bracket could only come first if there were no hyphens.
      rw [heq, spanBlanks, if_neg (by decide)] at hspan
      obtain ⟨hnil, hrest⟩ := Prod.mk.inj hspan
      have : c = ']' := by simpa [upcoming, ← hrest] using hnext.symm
      exact absurd this (hne hnil.symm)
    · rw [hspan]

/-- The text `o` after an opening bracket, with its negation and first members. -/
inductive Opening (verbose : Bool) (tl : List Char) : List Char → Bracket → Prop
  | intro {n l : List Char} {negated : Bool} {items : List ClassSet}
    (hn : Negation verbose (l ++ tl) n negated) (hl : Leading verbose tl l items) :
    Opening verbose tl (n ++ l) ⟨negated, none, items.reverse⟩

theorem openAfter_sound {verbose : Bool} {cs rest : List Char} {b : Bracket}
    (h : openAfter verbose cs = some (b, rest)) :
    ∃ o tl, cs = o ++ tl ∧ rest = skipBlanks verbose tl ∧ Opening verbose tl o b := by
  unfold openAfter at h
  cases hneg : readNegation verbose (skipBlanks verbose cs) with
  | mk negated mid =>
  rw [hneg] at h
  obtain ⟨n, tl, rfl, rfl, hn⟩ := negation_sound hneg
  simp only at h
  split at h
  · exact absurd h (by simp)
  · rename_i items rest' hne hlead
    obtain ⟨rfl, rfl⟩ := Prod.mk.inj (Option.some.inj h)
    obtain ⟨c, more, rfl⟩ := List.exists_cons_of_ne_nil hne
    obtain ⟨l, tl, rfl, hrest, hl⟩ := leading_sound hlead
    exact ⟨n ++ l, tl, by simp, hrest, .intro hn hl⟩

theorem openAfter_complete {verbose : Bool} {tl o : List Char} {b : Bracket}
    (h : Opening verbose tl o b) :
    openAfter verbose (o ++ tl) = some (b, skipBlanks verbose tl) := by
  obtain ⟨hn, hl⟩ := h
  obtain ⟨c, more, hmore⟩ := hl.next
  unfold openAfter
  rw [List.append_assoc, negation_complete hn]
  simp only
  rw [leading_complete hl, hmore]

/-! ### Named classes -/

theorem isLower_of_asciiClass? {n : List Char} {k : AsciiClass} (h : asciiClass? n = some k) :
    ∀ c ∈ n, c.isLower := by
  have of_eq : ∀ name : String, String.ofList n = name → n = name.toList := by
    rintro name rfl
    exact String.toList_ofList.symm
  unfold asciiClass? at h
  split at h
  all_goals first
    | (rename_i heq; rw [of_eq _ heq]; exact List.all_eq_true.mp (by decide))
    | exact absurd h (by simp)

def caret (negated : Bool) : List Char := if negated then ['^'] else []

/-- The text of a class between colons, up to its closing bracket. -/
def named (negated : Bool) (n : List Char) : List Char := ':' :: (caret negated ++ (n ++ [':', ']']))

theorem readAscii_colon {negated : Bool} {cs : List Char}
    (h : negated = false → cs.head? ≠ some '^') :
    readAscii (':' :: (caret negated ++ cs)) =
      match cs.dropWhile (· != ':') with
      | ':' :: ']' :: rest =>
        (asciiClass? (cs.takeWhile (· != ':'))).map fun k => (.ascii k negated, rest)
      | _ => none := by
  cases negated with
  | true => rfl
  | false =>
    cases cs with
    | nil => rfl
    | cons d cs =>
      have hd : d ≠ '^' := by simpa using h rfl
      show readAscii (':' :: d :: cs) = _
      unfold readAscii
      simp only
      split
      · rename_i heq
        split at heq
        · rename_i hcons
          exact absurd (List.cons.inj hcons).1 hd
        · simp only at heq
          rw [heq]
          rfl
      · rename_i hnone
        split
        · rename_i rest heq
          refine absurd ?_ (hnone rest)
          split
          · rename_i hcons
            exact absurd (List.cons.inj hcons).1 hd
          · exact heq
        · rfl

theorem readAscii_complete {n : List Char} {k : AsciiClass} (h : asciiClass? n = some k)
    (negated : Bool) (tl : List Char) :
    readAscii (named negated n ++ tl) = some (.ascii k negated, tl) := by
  have hlower := isLower_of_asciiClass? h
  have hcolon : ∀ c ∈ n, (c != ':') = true := by
    intro c hc
    simp only [bne_iff_ne, ne_eq]
    rintro rfl
    exact absurd (hlower ':' hc) (by decide)
  have htext : named negated n ++ tl = ':' :: (caret negated ++ (n ++ ':' :: ']' :: tl)) := by
    simp [named]
  have hstart : (n ++ ':' :: ']' :: tl).head? ≠ some '^' := by
    cases n with
    | nil => simp
    | cons c n =>
      intro heq
      obtain rfl : c = '^' := by simpa using heq
      exact absurd (hlower '^' (List.mem_cons_self ..)) (by decide)
  rw [htext, readAscii_colon fun _ => hstart, dropWhile_append_cons hcolon (by decide),
    List.takeWhile_append_of_pos hcolon, List.takeWhile_cons_of_neg (by decide), List.append_nil]
  simp only
  rw [h]
  rfl

theorem readAscii_sound {cs rest : List Char} {s : ClassSet} (h : readAscii cs = some (s, rest)) :
    ∃ n k negated, asciiClass? n = some k ∧ cs = named negated n ++ rest ∧
      s = .ascii k negated := by
  obtain ⟨tl, rfl⟩ : ∃ tl, cs = ':' :: tl := by
    unfold readAscii at h
    split at h
    · exact ⟨_, rfl⟩
    · exact absurd h (by simp)
  obtain ⟨negated, more, rfl, hhead⟩ : ∃ negated more, tl = caret negated ++ more ∧
      (negated = false → more.head? ≠ some '^') := by
    by_cases hcaret : tl.head? = some '^'
    · obtain ⟨more, rfl⟩ := List.head?_eq_some_iff.mp hcaret
      exact ⟨true, more, rfl, by simp⟩
    · exact ⟨false, tl, rfl, fun _ => hcaret⟩
  rw [readAscii_colon hhead] at h
  split at h
  · rename_i rest' hdrop
    obtain ⟨k, hk, heq⟩ := Option.map_eq_some_iff.1 h
    obtain ⟨rfl, rfl⟩ := Prod.mk.inj heq
    refine ⟨_, k, negated, hk, ?_, rfl⟩
    have htext := List.takeWhile_append_dropWhile (p := (· != ':')) (l := more)
    rw [hdrop] at htext
    rw [named, List.cons_append, List.append_assoc, List.append_assoc]
    simp only [List.cons_append, List.nil_append]
    rw [htext]
  · exact absurd h (by simp)

/-! ### Pieces -/

def operator? : Char → Option ClassOp
  | '&' => some .intersection
  | '-' => some .difference
  | '~' => some .symmetricDifference
  | _ => none

theorem isSolid_of_operator? {verbose : Bool} {c : Char} {op : ClassOp}
    (h : operator? c = some op) : isSolid verbose c := by
  unfold operator? at h
  split at h
  · cases verbose <;> decide
  · cases verbose <;> decide
  · cases verbose <;> decide
  · exact absurd h (by simp)

/-- Whether a text can start a member: with no bracket, and with no operator. -/
def startsMember : List Char → Bool
  | [] => false
  | c :: cs => c != '[' && c != ']' && !(cs.head? == some c && (operator? c).isSome)

theorem readPiece_of_startsMember {verbose : Bool} {cs : List Char} (h : startsMember cs) :
    readPiece verbose cs =
      (readMember verbose cs).map fun (item, rest) => (.member item, rest) := by
  unfold readPiece
  split
  case h_7 => rfl
  all_goals exact absurd h (by simp [startsMember, operator?])

theorem startsMember_of_not {c : Char} {cs : List Char} (h₁ : c ≠ '[') (h₂ : c ≠ ']')
    (h₃ : ∀ op, operator? c = some op → cs.head? ≠ some c) : startsMember (c :: cs) := by
  simp only [startsMember, Bool.and_eq_true, bne_iff_ne, ne_eq, Bool.not_eq_true',
    Bool.and_eq_false_iff, beq_eq_false_iff_ne]
  refine ⟨⟨h₁, h₂⟩, ?_⟩
  cases hop : operator? c with
  | none => exact .inr rfl
  | some op => exact .inl (h₃ op hop)

/-- Only the first two characters count. -/
theorem startsMember_congr {u x y : List Char} (hu : u ≠ []) (h : u.length = 1 → x.head? = y.head?) :
    startsMember (u ++ x) = startsMember (u ++ y) := by
  cases u with
  | nil => exact absurd rfl hu
  | cons c u =>
    cases u with
    | nil => simp only [List.cons_append, List.nil_append, startsMember, h rfl]
    | cons d u => rfl

/-- The text `w` is a piece of a class if `tl` comes after it. -/
inductive Morsel (verbose : Bool) (tl : List Char) : List Char → Piece → Prop
  | operator {c : Char} {op : ClassOp} (h : operator? c = some op) :
    Morsel verbose tl [c, c] (.operator op)
  | named {n : List Char} {k : AsciiClass} (negated : Bool) (h : asciiClass? n = some k) :
    Morsel verbose tl ('[' :: named negated n) (.member (.ascii k negated))
  | opening {o : List Char} {b : Bracket} (h : Opening verbose tl o b)
    (hn : readAscii (o ++ tl) = none) : Morsel verbose tl ('[' :: o) (.opening b)
  | single {u : List Char} {a : Ast} {m : ClassSet} (hu : Item verbose u a)
    (hm : member? a = some m) (hs : startsMember (u ++ tl)) (hr : rangesAt verbose tl = false) :
    Morsel verbose tl u (.member m)
  | range {u b₁ b₂ x : List Char} {a b : Ast} {r : ClassSet} (hu : Item verbose u a)
    (hb₁ : Blank verbose b₁) (hb₂ : Blank verbose b₂) (hx : Item verbose x b)
    (hsolid : x.head?.all (isSolid verbose)) (hr : range? a b = some r)
    (hs : startsMember (u ++ (b₁ ++ ['-'])))
    (hafter : ∀ y, afterHyphen verbose (b₂ ++ (x ++ y)) ∉ [some ']', some '-']) :
    Morsel verbose tl (u ++ (b₁ ++ '-' :: (b₂ ++ x))) (.member r)

theorem rangesAt_of_trimmed {verbose : Bool} {tl rest : List Char}
    (hrest : Trimmed verbose tl rest) : rangesAt verbose rest = rangesAt verbose tl := by
  simp only [rangesAt, hrest.skip]

/-- A member is a single item, or a range if a hyphen follows that makes one. -/
theorem readMember_sound {verbose : Bool} {cs rest : List Char} {s : ClassSet}
    (hs : startsMember cs) (h : readMember verbose cs = some (s, rest)) :
    ∃ w tl, cs = w ++ tl ∧ Trimmed verbose tl rest ∧ Morsel verbose tl w (.member s) := by
  unfold readMember at h
  obtain ⟨⟨first, mid⟩, hfirst, hthen⟩ := Option.bind_eq_some_iff.1 h
  obtain ⟨u, tl, rfl, hmid, hu⟩ := readItem_sound hfirst
  simp only at hthen
  split at hthen
  · exact absurd hthen (by simp)
  · rename_i more hskip
    split at hthen
    · rename_i hnext
      obtain ⟨m, hm, heq⟩ := Option.bind_eq_some_iff.1 hthen
      obtain ⟨rfl, rfl⟩ := Prod.mk.inj (Option.some.inj heq)
      refine ⟨u, tl, rfl, .inr ?_, .single hu hm hs ?_⟩
      · rw [← hskip, hmid.skip]
      · rw [← rangesAt_of_trimmed hmid, rangesAt, hskip]
        simp only
        rw [hnext]
        rfl
    · rename_i hnext
      obtain ⟨⟨last, mid'⟩, hlast, hthen⟩ := Option.bind_eq_some_iff.1 hthen
      obtain ⟨r, hr, heq⟩ := Option.bind_eq_some_iff.1 hthen
      obtain ⟨rfl, rfl⟩ := Prod.mk.inj (Option.some.inj heq)
      obtain ⟨x, tl', htext, hrest, hx⟩ := readItem_sound hlast
      obtain ⟨c, x, rfl⟩ := hx.cons
      rw [List.cons_append] at htext
      obtain ⟨b₁, rfl, hb₁, -⟩ := skipBlanks_split_cons (hmid.skip ▸ hskip)
      obtain ⟨b₂, rfl, hb₂, hsolid⟩ := skipBlanks_split_cons htext
      refine ⟨u ++ (b₁ ++ '-' :: (b₂ ++ (c :: x))), tl', by simp, hrest,
        .range hu hb₁ hb₂ hx (by simpa using hsolid) hr ?_ fun y => ?_⟩
      · obtain ⟨d, z, rfl⟩ := hu.cons
        rw [startsMember_congr (y := b₁ ++ ['-']) (by simp) (by cases b₁ <;> simp)] at hs
        exact hs
      · obtain ⟨d, hd⟩ := afterHyphen_append hsolid b₂
        rw [List.cons_append, hd]
        rw [hd] at hnext
        simpa [not_or] using hnext
  · rename_i hhyphen
    obtain ⟨m, hm, heq⟩ := Option.bind_eq_some_iff.1 hthen
    obtain ⟨rfl, rfl⟩ := Prod.mk.inj (Option.some.inj heq)
    refine ⟨u, tl, rfl, .inr hmid.skip, .single hu hm hs ?_⟩
    rw [← rangesAt_of_trimmed hmid, rangesAt]
    split
    · contradiction
    · rename_i heq
      exact absurd heq (hhyphen _)
    · rfl

theorem readMember_single {verbose : Bool} {u tl : List Char} {a : Ast} {m : ClassSet}
    (hu : Item verbose u a) (hm : member? a = some m) (hr : rangesAt verbose tl = false) :
    readMember verbose (u ++ tl) = some (m, skipBlanks verbose tl) := by
  obtain ⟨rest, hread, hrest⟩ := hu.reads (by simp [isMember, hm]) tl
  obtain ⟨more, hskip, hhyphen⟩ | ⟨hnil, hhyphen⟩ :
      (∃ more, skipBlanks verbose tl = '-' :: more ∧
        (afterHyphen verbose more == some ']' || afterHyphen verbose more == some '-') = true) ∨
      skipBlanks verbose tl ≠ [] ∧ ∀ more, skipBlanks verbose tl ≠ '-' :: more := by
    unfold rangesAt at hr
    split at hr
    · exact absurd hr (by simp)
    · rename_i more hskip
      exact .inl ⟨more, hskip, by simpa only [Bool.not_eq_false'] using hr⟩
    · rename_i hnil hhyphen
      exact .inr ⟨hnil, hhyphen⟩
  · unfold readMember
    rw [hread]
    simp only [Option.bind_eq_bind, Option.bind_some, hrest.skip, hskip]
    rw [if_pos hhyphen, hm]
    rfl
  · unfold readMember
    rw [hread]
    simp only [Option.bind_eq_bind, Option.bind_some, hrest.skip]
    rw [hm]
    rfl

theorem readMember_range {verbose : Bool} {u b₁ b₂ x tl : List Char} {a b : Ast} {r : ClassSet}
    (hu : Item verbose u a) (hb₁ : Blank verbose b₁) (hb₂ : Blank verbose b₂)
    (hx : Item verbose x b) (hsolid : x.head?.all (isSolid verbose)) (hr : range? a b = some r)
    (hafter : afterHyphen verbose (b₂ ++ (x ++ tl)) ∉ [some ']', some '-']) :
    ∃ rest, readMember verbose (u ++ (b₁ ++ '-' :: (b₂ ++ x)) ++ tl) = some (r, rest) ∧
      Trimmed verbose tl rest := by
  obtain ⟨ha, hb⟩ := isMember_of_range? hr
  obtain ⟨mid, hmid, htrim⟩ := hu.reads ha (b₁ ++ '-' :: (b₂ ++ (x ++ tl)))
  obtain ⟨rest, hread, hrest⟩ := hx.reads hb tl
  refine ⟨rest, ?_, hrest⟩
  obtain ⟨c, x, rfl⟩ := hx.cons
  have hsolid : isSolid verbose c := by simpa using hsolid
  have hhyphen : isSolid verbose '-' := by cases verbose <;> decide
  have htext : u ++ (b₁ ++ '-' :: (b₂ ++ (c :: x))) ++ tl =
      u ++ (b₁ ++ '-' :: (b₂ ++ (c :: x ++ tl))) := by simp
  unfold readMember
  rw [htext, hmid]
  simp only [Option.bind_eq_bind, Option.bind_some, htrim.skip, hb₁.skip_cons hhyphen]
  rw [if_neg (by simpa [not_or] using hafter), List.cons_append, hb₂.skip_cons hsolid,
    ← List.cons_append, hread]
  simp only [Option.bind_some, hr]
  rfl

theorem readPiece_sound {verbose : Bool} {cs rest : List Char} {piece : Piece}
    (h : readPiece verbose cs = some (piece, rest)) :
    (piece = .closing ∧ cs = ']' :: rest) ∨
      ∃ w tl, cs = w ++ tl ∧ Trimmed verbose tl rest ∧ Morsel verbose tl w piece := by
  by_cases hs : startsMember cs
  · rw [readPiece_of_startsMember hs] at h
    obtain ⟨⟨s, rest'⟩, hread, heq⟩ := Option.map_eq_some_iff.1 h
    obtain ⟨rfl, rfl⟩ := Prod.mk.inj heq
    exact .inr (readMember_sound hs hread)
  unfold readPiece at h
  split at h
  case h_1 => exact absurd h (by simp)
  case h_2 rest' =>
    split at h
    · rename_i item rest'' hread
      obtain ⟨rfl, rfl⟩ := Prod.mk.inj (Option.some.inj h)
      obtain ⟨n, k, negated, hk, rfl, rfl⟩ := readAscii_sound hread
      exact .inr ⟨'[' :: named negated n, rest'', by simp, .inl rfl, .named negated hk⟩
    · rename_i hnone
      obtain ⟨⟨b, rest''⟩, hopen, heq⟩ := Option.map_eq_some_iff.1 h
      obtain ⟨rfl, rfl⟩ := Prod.mk.inj heq
      obtain ⟨o, tl, rfl, rfl, ho⟩ := openAfter_sound hopen
      exact .inr ⟨'[' :: o, tl, by simp, .inr rfl, .opening ho hnone⟩
  case h_3 rest' =>
    obtain ⟨rfl, rfl⟩ := Prod.mk.inj (Option.some.inj h)
    exact .inl ⟨rfl, rfl⟩
  case h_4 rest' =>
    obtain ⟨rfl, rfl⟩ := Prod.mk.inj (Option.some.inj h)
    exact .inr ⟨['&', '&'], rest', rfl, .inl rfl, .operator rfl⟩
  case h_5 rest' =>
    obtain ⟨rfl, rfl⟩ := Prod.mk.inj (Option.some.inj h)
    exact .inr ⟨['-', '-'], rest', rfl, .inl rfl, .operator rfl⟩
  case h_6 rest' =>
    obtain ⟨rfl, rfl⟩ := Prod.mk.inj (Option.some.inj h)
    exact .inr ⟨['~', '~'], rest', rfl, .inl rfl, .operator rfl⟩
  case h_7 hnil hopen hclose hand hminus htilde =>
    refine absurd ?_ hs
    obtain ⟨c, cs, rfl⟩ := List.exists_cons_of_ne_nil hnil
    refine startsMember_of_not ?_ ?_ ?_
    · rintro rfl
      exact hopen cs rfl
    · rintro rfl
      exact hclose cs rfl
    · intro op hop hhead
      obtain ⟨more, rfl⟩ := List.head?_eq_some_iff.mp hhead
      unfold operator? at hop
      split at hop
      · exact hand more rfl
      · exact hminus more rfl
      · exact htilde more rfl
      · exact absurd hop (by simp)

theorem readPiece_complete {verbose : Bool} {w tl : List Char} {piece : Piece}
    (h : Morsel verbose tl w piece) :
    ∃ rest, readPiece verbose (w ++ tl) = some (piece, rest) ∧ Trimmed verbose tl rest := by
  cases h with
  | @operator c op hop =>
    refine ⟨tl, ?_, .inl rfl⟩
    unfold operator? at hop
    split at hop
    · obtain rfl := Option.some.inj hop
      rfl
    · obtain rfl := Option.some.inj hop
      rfl
    · obtain rfl := Option.some.inj hop
      rfl
    · exact absurd hop (by simp)
  | named negated hk =>
    refine ⟨tl, ?_, .inl rfl⟩
    rw [List.cons_append, readPiece, readAscii_complete hk]
  | opening ho hnone =>
    refine ⟨_, ?_, .inr rfl⟩
    rw [List.cons_append, readPiece, hnone]
    simp only
    rw [openAfter_complete ho]
    rfl
  | single hu hm hs hr =>
    refine ⟨_, ?_, .inr rfl⟩
    rw [readPiece_of_startsMember hs, readMember_single hu hm hr]
    rfl
  | @range u b₁ b₂ x a b r hu hb₁ hb₂ hx hsolid hr hs hafter =>
    obtain ⟨rest, hread, hrest⟩ := readMember_range hu hb₁ hb₂ hx hsolid hr (hafter tl)
    refine ⟨rest, ?_, hrest⟩
    rw [readPiece_of_startsMember, hread]
    · rfl
    · obtain ⟨d, z, rfl⟩ := hu.cons
      rw [List.append_assoc,
        startsMember_congr (y := b₁ ++ ['-']) (by simp) (by cases b₁ <;> simp)]
      exact hs

end Gazetteer.Regex.Bracket
