import Gazetteer.Proofs.Reading.Flags
import Gazetteer.Proofs.Unicode.Orbit

/-! Patterns whose classes are those of ASCII.

What a pattern would mean if its one-letter classes and its word boundaries were those of ASCII is
`Node.ofAsciiAst`. The same can be said with the classes spelled out (`Ast.asciiOnly`): the two mean
the same wherever spelled out letters gain no variants from the flags in force
(`Node.ofAst_asciiOnly`). -/
namespace Gazetteer.Regex

/-! ### One-letter classes -/

namespace EscapeClass

/-- Whether variants from outside the class join its ASCII characters under the flags in force. -/
def gains (m : Mode) (k : EscapeClass) : Bool := k == .word && m.caseInsensitive && m.unicode

/-- The ASCII characters of a class as members. -/
def members : EscapeClass → List ClassSet
  | .digit => [.range '0' '9']
  | .space => [.literal '\t', .literal '\n', .literal '\x0b', .literal '\x0c', .literal '\r',
      .literal ' ']
  | .word => [.range '0' '9', .range 'A' 'Z', .range 'a' 'z', .literal '_']

theorem toNat_lt_of_isDigit {c : Char} (h : Unicode.isAsciiDigit c) : c.toNat < 65 := by
  simp only [Unicode.isAsciiDigit, Char.isDigit, Bool.and_eq_true, decide_eq_true_eq,
    UInt32.le_iff_toNat_le] at h
  exact Nat.lt_of_le_of_lt h.2 (by decide)

theorem isAscii_of_charSet {k : EscapeClass} {c : Char} (h : k.charSet false c) :
    Unicode.isAscii c := by
  cases k with
  | digit => exact Unicode.isAscii_of_isAlphanum (Bool.or_eq_true_iff.mpr (.inr h))
  | space => exact decide_eq_true (Nat.lt_trans (Unicode.toNat_lt_of_isAsciiSpace h) (by decide))
  | word =>
    rcases Bool.or_eq_true_iff.mp h with h | h
    · exact Unicode.isAscii_of_isAlphanum h
    · exact beq_iff_eq.mp h ▸ rfl

end EscapeClass

/-! ### Variants -/

namespace CharSet

variable {m : Mode} {s : CharSet}

theorem fold_of_lt (hs : ∀ c, s c → c.toNat < 65) : fold m s = s := by
  funext c
  unfold fold Mode.variants
  split
  · exact Bool.or_false _
  · split
    · exact Unicode.CaseFold.any_orbit hs c
    · refine Unicode.CaseFold.any_asciiOrbit fun d hd hsd => ?_
      rcases Unicode.CaseFold.mem_asciiOrbit hd with rfl | ⟨-, -, hle⟩
      · exact hsd
      · exact absurd (hs d hsd) (Nat.not_lt.mpr hle)

/-- Digits and blanks have no variants, and the variants of ASCII letters in ASCII are letters. -/
theorem fold_charSet {k : EscapeClass} (h : k.gains m = false) :
    fold m (k.charSet false) = k.charSet false := by
  cases k with
  | digit => exact fold_of_lt fun c => EscapeClass.toNat_lt_of_isDigit
  | space => exact fold_of_lt fun c => Unicode.toNat_lt_of_isAsciiSpace
  | word =>
    funext c
    show (m.variants c).any Unicode.isAsciiWord = Unicode.isAsciiWord c
    have h : (m.caseInsensitive && m.unicode) = false := h
    unfold Mode.variants
    split
    · exact Bool.or_false _
    · rename_i hcase
      rw [Bool.not_eq_true, Bool.not_eq_false'] at hcase
      rw [hcase, Bool.true_and] at h
      rw [h, if_neg Bool.false_ne_true]
      refine Unicode.CaseFold.any_asciiOrbit fun d hd hsd => ?_
      rcases Unicode.CaseFold.mem_asciiOrbit hd with rfl | ⟨hc, -, -⟩
      · exact hsd
      · exact Bool.or_eq_true_iff.mpr (.inl hc)

/-- The long s is a variant of a letter, so the word class gains it. -/
theorem fold_longS {m : Mode} (h : EscapeClass.word.gains m) :
    fold m (EscapeClass.word.charSet false) 'ſ' := by
  have hrun : ⟨0x17F, 0x17F, .down 0x12C⟩ ∈ Unicode.CaseFold.runs.toList := by
    unfold Unicode.CaseFold.runs
    rw [List.toList_toArray]
    simp only [List.flatMap_cons, List.flatMap_nil]
    repeat rw [String.toList_ofList]
    decide +kernel
  have hnext : Unicode.CaseFold.next 'ſ' = 'S' :=
    Unicode.CaseFold.next_of_mem hrun (Nat.le_refl _) (Nat.le_refl _)
  have h : (m.caseInsensitive && m.unicode) = true := h
  obtain ⟨hcase, hunicode⟩ := Bool.and_eq_true_iff.mp h
  unfold fold Mode.variants
  rw [hcase, hunicode]
  show (Unicode.CaseFold.orbit 'ſ').any (EscapeClass.word.charSet false)
  unfold Unicode.CaseFold.orbit
  dsimp only
  rw [hnext, List.takeWhile_cons_of_pos (by decide)]
  rfl

end CharSet

/-! ### Class expressions -/

namespace ClassSet

mutual
/-- The set of a class expression whose one-letter classes are those of ASCII. -/
def asciiSet? (m : Mode) : ClassSet → Option CharSet
  | .escape k negated => negateIf m negated (k.charSet false)
  | .bracketed negated inner =>
    (asciiSet? m inner).bind fun s => negateIf m negated (CharSet.fold m s)
  | .union items => asciiSets? m items
  | .binary op left right => do
    let s ← asciiSet? m left
    let t ← asciiSet? m right
    return CharSet.join op (CharSet.fold m s) (CharSet.fold m t)
  | s => s.charSet? m

/-- The union of the sets of all members. -/
def asciiSets? (m : Mode) : List ClassSet → Option CharSet
  | [] => some fun _ => false
  | item :: items => do
    let s ← asciiSet? m item
    let t ← asciiSets? m items
    return s.union t
end

mutual
/-- The members of a class expression with the one-letter classes spelled out. -/
def pieces : ClassSet → List ClassSet
  | .empty => []
  | .escape k false => k.members
  | .escape k true => [.bracketed true (ofItems k.members)]
  | .bracketed negated inner => [.bracketed negated (ofItems inner.pieces)]
  | .union items => piecesOf items
  | .binary op left right => [.binary op (ofItems left.pieces) (ofItems right.pieces)]
  | s => [s]

def piecesOf : List ClassSet → List ClassSet
  | [] => []
  | item :: items => item.pieces ++ piecesOf items
end

mutual
/-- Whether no class of which the complement is taken gains a character when it is spelled out. -/
def staysAscii (m : Mode) : ClassSet → Bool
  | .escape k negated => !(negated && k.gains m)
  | .bracketed _ inner => inner.staysAscii m
  | .union items => staysAsciiAll m items
  | .binary _ left right => left.staysAscii m && right.staysAscii m
  | _ => true

def staysAsciiAll (m : Mode) : List ClassSet → Bool
  | [] => true
  | item :: items => item.staysAscii m && staysAsciiAll m items
end

theorem piecesOf_eq_flatMap (items : List ClassSet) : piecesOf items = items.flatMap pieces := by
  induction items with
  | nil => rfl
  | cons item items ih => rw [piecesOf, ih, List.flatMap_cons]

/-- Spelling out does not depend on whether a member stands alone. -/
theorem pieces_ofItems (items : List ClassSet) : (ofItems items).pieces = items.flatMap pieces := by
  match items with
  | [] => rfl
  | [_] => exact (List.append_nil _).symm
  | _ :: _ :: _ => exact piecesOf_eq_flatMap _

variable {m : Mode}

theorem charSets?_append (a b : List ClassSet) :
    charSets? m (a ++ b) = (charSets? m a).bind fun s => (charSets? m b).map s.union := by
  induction a with
  | nil =>
    show charSets? m b = (charSets? m b).map _
    have hempty : (CharSet.union fun _ => false) = id := by
      funext s c
      exact Bool.false_or _
    rw [hempty, Option.map_id]
    rfl
  | cons item a ih =>
    rw [List.cons_append, charSets?, ih, charSets?]
    cases charSet? m item with
    | none => rfl
    | some s =>
      cases charSets? m a with
      | none => rfl
      | some t =>
        cases charSets? m b with
        | none => rfl
        | some r =>
          refine congrArg some ?_
          funext c
          exact (Bool.or_assoc ..).symm

theorem charSets?_singleton (s : ClassSet) : charSets? m [s] = charSet? m s := by
  rw [charSets?]
  cases charSet? m s with
  | none => rfl
  | some t =>
    refine congrArg some ?_
    funext c
    exact Bool.or_false _

theorem charSet?_ofItems (items : List ClassSet) : charSet? m (ofItems items) = charSets? m items := by
  match items with
  | [] => rfl
  | [s] => exact (charSets?_singleton s).symm
  | _ :: _ :: _ => rfl

theorem charSets?_members (k : EscapeClass) : charSets? m k.members = some (k.charSet false) := by
  have hset : ∃ s, charSets? m k.members = some s ∧ ∀ c, s c ↔ k.charSet false c := by
    cases k with
    | digit =>
      refine ⟨.range '0' '9', ?_, fun c => Iff.rfl⟩
      rw [EscapeClass.members, charSets?_singleton]
      exact if_pos (Bool.or_true _)
    | space =>
      refine ⟨_, by simp [EscapeClass.members, charSets?, charSet?, Unicode.isAscii]; rfl, ?_⟩
      intro c
      simp [CharSet.union, CharSet.singleton, EscapeClass.charSet, Unicode.isAsciiSpace,
        ← Char.toNat_inj]
      omega
    | word =>
      refine ⟨_, by simp [EscapeClass.members, charSets?, charSet?, Unicode.isAscii]; rfl, ?_⟩
      intro c
      have hupper : CharSet.range 'A' 'Z' c = c.isUpper := (Bool.decide_and ..).symm
      show (c.isDigit || (CharSet.range 'A' 'Z' c || (c.isLower || (c == '_' || false)))) = true ↔
        (((c.isUpper || c.isLower) || c.isDigit) || c == '_') = true
      rw [hupper]
      simp only [Bool.or_eq_true, Bool.or_false]
      tauto
  obtain ⟨s, hs, hiff⟩ := hset
  rw [hs]
  exact congrArg some (funext fun c => Bool.eq_iff_iff.mpr (hiff c))

mutual
/-- Spelled out, a class expression stands for the set it stands for with the classes of ASCII. -/
theorem charSets?_pieces {s : ClassSet} (h : s.staysAscii m) : charSets? m s.pieces = s.asciiSet? m := by
  match s with
  | .empty => rfl
  | .escape k false => exact charSets?_members k
  | .escape k true =>
    have h : k.gains m = false := by simpa [staysAscii] using h
    rw [pieces, charSets?_singleton, charSet?, charSet?_ofItems, charSets?_members,
      Option.bind_some, CharSet.fold_charSet h]
    rfl
  | .bracketed negated inner =>
    rw [pieces, charSets?_singleton, charSet?, charSet?_ofItems, charSets?_pieces (s := inner) h]
    rfl
  | .union items => exact charSets?_piecesOf h
  | .binary op left right =>
    obtain ⟨hleft, hright⟩ := Bool.and_eq_true_iff.mp h
    rw [pieces, charSets?_singleton, charSet?, charSet?_ofItems, charSet?_ofItems,
      charSets?_pieces hleft, charSets?_pieces hright]
    rfl
  | .literal _ | .range _ _ | .ascii _ _ | .property _ _ => exact charSets?_singleton _

theorem charSets?_piecesOf {items : List ClassSet} (h : staysAsciiAll m items) :
    charSets? m (piecesOf items) = asciiSets? m items := by
  match items with
  | [] => rfl
  | item :: items =>
    obtain ⟨hitem, hitems⟩ := Bool.and_eq_true_iff.mp h
    rw [piecesOf, charSets?_append, charSets?_pieces hitem, charSets?_piecesOf hitems]
    show _ = (asciiSet? m item).bind fun s => (asciiSets? m items).bind fun t => some (s.union t)
    simp only [Option.map_eq_bind, Function.comp_def]
end

theorem isSome_negateIf (negated : Bool) (s t : CharSet) :
    (negateIf m negated s).isSome = (negateIf m negated t).isSome := by
  unfold negateIf
  split
  · rfl
  · split <;> rfl

theorem isSome_bind_congr {x y : Option CharSet} {f g : CharSet → Option CharSet}
    (h : x.isSome = y.isSome) (hfg : ∀ s t, (f s).isSome = (g t).isSome) :
    (x.bind f).isSome = (y.bind g).isSome := by
  cases x with
  | none => cases y with
    | none => rfl
    | some t => exact absurd h (by simp)
  | some s => cases y with
    | none => exact absurd h (by simp)
    | some t => exact hfg s t

mutual
/-- A class expression stands for a set under both readings or under neither. -/
theorem isSome_asciiSet? (m : Mode) (s : ClassSet) :
    (s.asciiSet? m).isSome = (s.charSet? m).isSome := by
  match s with
  | .empty | .literal _ | .range _ _ | .ascii _ _ | .property _ _ => rfl
  | .escape k negated => exact isSome_negateIf negated _ _
  | .bracketed negated inner =>
    exact isSome_bind_congr (isSome_asciiSet? m inner) fun _ _ => isSome_negateIf negated _ _
  | .union items => exact isSome_asciiSets? m items
  | .binary op left right =>
    exact isSome_bind_congr (isSome_asciiSet? m left) fun _ _ =>
      isSome_bind_congr (isSome_asciiSet? m right) fun _ _ => rfl

theorem isSome_asciiSets? (m : Mode) (items : List ClassSet) :
    (asciiSets? m items).isSome = (charSets? m items).isSome := by
  match items with
  | [] => rfl
  | item :: items =>
    exact isSome_bind_congr (isSome_asciiSet? m item) fun _ _ =>
      isSome_bind_congr (isSome_asciiSets? m items) fun _ _ => rfl
end

end ClassSet

/-! ### Patterns -/

namespace Ast

mutual
/-- The pattern with its one-letter classes spelled out and its word boundaries those of ASCII. -/
def asciiOnly : Ast → Ast
  | .assertion .wordBoundary => .group (.plain [(.unicode, false)]) (.assertion .wordBoundary)
  | .set (.escape k negated) => .set (.bracketed negated (.ofItems k.members))
  | .set s => .set (.ofItems s.pieces)
  | .repetition least most greedy inner => .repetition least most greedy inner.asciiOnly
  | .group kind inner => .group kind inner.asciiOnly
  | .alternation branches => .alternation (asciiOnlyAll branches)
  | .concat items => .concat (asciiOnlyAll items)
  | a => a

def asciiOnlyAll : List Ast → List Ast
  | [] => []
  | part :: parts => part.asciiOnly :: asciiOnlyAll parts
end

mutual
/-- Whether no class gains a character when it is spelled out, with the flags `m` in force. -/
def staysAscii (m : Mode) : Ast → Bool
  | .set (.escape k _) => !k.gains m
  | .set s => s.staysAscii m
  | .repetition _ _ _ inner => inner.staysAscii m
  | .group (.capture _ _) inner => inner.staysAscii m
  | .group (.plain changes) inner => inner.staysAscii (m.switch changes)
  | .alternation branches => staysAsciiAll m branches
  | .concat items => staysAsciiAll m items
  | _ => true

def staysAsciiAll (m : Mode) : List Ast → Bool
  | [] => true
  | part :: parts => part.staysAscii m && staysAsciiAll (part.modeAfter m) parts
end

theorem asciiOnlyAll_eq_map (parts : List Ast) : asciiOnlyAll parts = parts.map asciiOnly := by
  induction parts with
  | nil => rfl
  | cons part parts ih => rw [asciiOnlyAll, ih, List.map_cons]

theorem asciiOnly_ofItems (items : List Ast) :
    (ofItems items).asciiOnly = ofItems (items.map asciiOnly) := by
  match items with
  | [] => rfl
  | [_] => rfl
  | _ :: _ :: _ => exact congrArg concat (asciiOnlyAll_eq_map _)

theorem asciiOnly_ofBranches (branches : List Ast) :
    (ofBranches branches).asciiOnly = ofBranches (branches.map asciiOnly) := by
  match branches with
  | [] => rfl
  | [_] => rfl
  | _ :: _ :: _ => exact congrArg alternation (asciiOnlyAll_eq_map _)

theorem isRepeatable_asciiOnly (a : Ast) : a.asciiOnly.isRepeatable = a.isRepeatable := by
  cases a with
  | assertion a => cases a <;> rfl
  | set s => cases s <;> rfl
  | _ => rfl

mutual
theorem modeAfter_asciiOnly (m : Mode) (a : Ast) : a.asciiOnly.modeAfter m = a.modeAfter m := by
  match a with
  | .assertion a => cases a <;> rfl
  | .set s => cases s <;> rfl
  | .repetition _ _ _ inner => exact modeAfter_asciiOnly m inner
  | .alternation branches => exact modeAfterAll_asciiOnly m branches
  | .concat items => exact modeAfterAll_asciiOnly m items
  | .empty | .flags _ | .literal _ _ | .dot | .group _ _ => rfl

theorem modeAfterAll_asciiOnly (m : Mode) (parts : List Ast) :
    modeAfterAll m (asciiOnlyAll parts) = modeAfterAll m parts := by
  match parts with
  | [] => rfl
  | part :: parts =>
    rw [asciiOnlyAll, modeAfterAll, modeAfter_asciiOnly m part, modeAfterAll_asciiOnly _ parts]
    rfl
end

mutual
theorem groupNames_asciiOnly (a : Ast) : a.asciiOnly.groupNames = a.groupNames := by
  match a with
  | .assertion a => cases a <;> rfl
  | .set s => cases s <;> rfl
  | .repetition _ _ _ inner => exact groupNames_asciiOnly inner
  | .group (.capture index (some name)) inner =>
    exact congrArg ((index, name) :: ·) (groupNames_asciiOnly inner)
  | .group (.capture _ none) inner => exact groupNames_asciiOnly inner
  | .group (.plain _) inner => exact groupNames_asciiOnly inner
  | .alternation branches => exact groupNamesOf_asciiOnly branches
  | .concat items => exact groupNamesOf_asciiOnly items
  | .empty | .flags _ | .literal _ _ | .dot => rfl

theorem groupNamesOf_asciiOnly (parts : List Ast) :
    groupNamesOf (asciiOnlyAll parts) = groupNamesOf parts := by
  match parts with
  | [] => rfl
  | part :: parts =>
    rw [asciiOnlyAll, groupNamesOf, groupNames_asciiOnly part, groupNamesOf_asciiOnly parts]
    rfl
end

end Ast

namespace Node

mutual
/-- The node of a pattern whose one-letter classes and word boundaries are those of ASCII, with the
flags in force after it. Everything else means what it means in the pattern. -/
def ofAsciiAst (m : Mode) : Ast → Option (Node × Mode)
  | .assertion .wordBoundary => some (.look (.boundary false), m)
  | .set s => (s.asciiSet? m).map fun s => (.set s, m)
  | .repetition least most greedy inner =>
    (ofAsciiAst m inner).map fun (n, m) => (repetition least most (greedy != m.swapGreed) n, m)
  | .group (.capture index _) inner =>
    (ofAsciiAst m inner).map fun (n, _) => (.capture index n, m)
  | .group (.plain changes) inner =>
    (ofAsciiAst (m.switch changes) inner).map fun (n, _) => (n, m)
  | .alternation branches => ofAsciiBranches m branches
  | .concat items => ofAsciiItems m items
  | a => ofAst m a

def ofAsciiItems (m : Mode) : List Ast → Option (Node × Mode)
  | [] => some (.empty, m)
  | a :: items => do
    let (first, m) ← ofAsciiAst m a
    ofAsciiItemsAfter first m items

def ofAsciiItemsAfter (first : Node) (m : Mode) : List Ast → Option (Node × Mode)
  | [] => some (first, m)
  | a :: items => do
    let (second, m) ← ofAsciiAst m a
    ofAsciiItemsAfter (.cat first second) m items

def ofAsciiBranches (m : Mode) : List Ast → Option (Node × Mode)
  | [] => some (.set fun _ => false, m)
  | [a] => ofAsciiAst m a
  | a :: branches => do
    let (first, m) ← ofAsciiAst m a
    let (second, m) ← ofAsciiBranches m branches
    return (.alt first second, m)
end

theorem ofAst_set_asciiOnly {m : Mode} {s : ClassSet} (h : (Ast.set s).staysAscii m) :
    ofAst m (Ast.set s).asciiOnly = (s.asciiSet? m).map fun s => (.set s, m) := by
  have hpieces : s.staysAscii m → ofAst m (.set (.ofItems s.pieces)) =
      (s.asciiSet? m).map fun s => (.set s, m) := by
    intro hs
    rw [ofAst, ClassSet.charSet?_ofItems, ClassSet.charSets?_pieces hs]
  cases s with
  | escape k negated =>
    have h : k.gains m = false := by simpa [Ast.staysAscii] using h
    show (((ClassSet.ofItems k.members).charSet? m).bind _).map _ = _
    rw [ClassSet.charSet?_ofItems, ClassSet.charSets?_members, Option.bind_some,
      CharSet.fold_charSet h]
    rfl
  | _ => exact hpieces h

mutual
/-- Spelled out, a pattern means what it means with the classes of ASCII. -/
theorem ofAst_asciiOnly {m : Mode} {a : Ast} (h : a.staysAscii m) :
    ofAst m a.asciiOnly = ofAsciiAst m a := by
  match a with
  | .assertion a => cases a <;> rfl
  | .set s => exact ofAst_set_asciiOnly h
  | .repetition least most greedy inner =>
    exact congrArg (Option.map _) (ofAst_asciiOnly (a := inner) h)
  | .group (.capture index name) inner =>
    exact congrArg (Option.map _) (ofAst_asciiOnly (a := inner) h)
  | .group (.plain changes) inner =>
    exact congrArg (Option.map _) (ofAst_asciiOnly (a := inner) h)
  | .alternation branches => exact ofBranches_asciiOnly h
  | .concat items => exact ofItems_asciiOnly h
  | .empty | .flags _ | .literal _ _ | .dot => rfl

theorem ofItems_asciiOnly {m : Mode} {items : List Ast} (h : Ast.staysAsciiAll m items) :
    ofItems m (Ast.asciiOnlyAll items) = ofAsciiItems m items := by
  match items with
  | [] => rfl
  | a :: items =>
    obtain ⟨ha, hitems⟩ := Bool.and_eq_true_iff.mp h
    rw [Ast.asciiOnlyAll, ofItems, ofAsciiItems, ← ofAst_asciiOnly ha]
    refine Option.bind_congr fun ⟨_, m'⟩ hp => ?_
    obtain rfl : m' = a.modeAfter m := (mode_ofAst hp).trans (Ast.modeAfter_asciiOnly m a)
    exact ofItemsAfter_asciiOnly hitems

theorem ofItemsAfter_asciiOnly {m : Mode} {first : Node} {items : List Ast}
    (h : Ast.staysAsciiAll m items) :
    ofItemsAfter first m (Ast.asciiOnlyAll items) = ofAsciiItemsAfter first m items := by
  match items with
  | [] => rfl
  | a :: items =>
    obtain ⟨ha, hitems⟩ := Bool.and_eq_true_iff.mp h
    rw [Ast.asciiOnlyAll, ofItemsAfter, ofAsciiItemsAfter, ← ofAst_asciiOnly ha]
    refine Option.bind_congr fun ⟨_, m'⟩ hp => ?_
    obtain rfl : m' = a.modeAfter m := (mode_ofAst hp).trans (Ast.modeAfter_asciiOnly m a)
    exact ofItemsAfter_asciiOnly hitems

theorem ofBranches_asciiOnly {m : Mode} {branches : List Ast}
    (h : Ast.staysAsciiAll m branches) :
    ofBranches m (Ast.asciiOnlyAll branches) = ofAsciiBranches m branches := by
  match branches with
  | [] => rfl
  | [a] => exact ofAst_asciiOnly (Bool.and_eq_true_iff.mp h).1
  | a :: b :: branches =>
    obtain ⟨ha, hbranches⟩ := Bool.and_eq_true_iff.mp h
    show (ofAst m a.asciiOnly).bind (fun p =>
        (ofBranches p.2 (Ast.asciiOnlyAll (b :: branches))).bind _) =
      (ofAsciiAst m a).bind fun p => (ofAsciiBranches p.2 (b :: branches)).bind _
    rw [← ofAst_asciiOnly ha]
    refine Option.bind_congr fun ⟨_, m'⟩ hp => ?_
    obtain rfl : m' = a.modeAfter m := (mode_ofAst hp).trans (Ast.modeAfter_asciiOnly m a)
    exact congrArg (Option.bind · _) (ofBranches_asciiOnly hbranches)
end

section

variable {f g : Node × Mode → Option (Node × Mode)} {x y : Option (Node × Mode)}

theorem mode_bind (h : x.map Prod.snd = y.map Prod.snd)
    (hfg : ∀ n n' m, (f (n, m)).map Prod.snd = (g (n', m)).map Prod.snd) :
    (x.bind f).map Prod.snd = (y.bind g).map Prod.snd := by
  cases x with
  | none => cases y with
    | none => rfl
    | some q => exact absurd h (by simp)
  | some p => cases y with
    | none => exact absurd h (by simp)
    | some q =>
      obtain ⟨n, m⟩ := p
      obtain ⟨n', m'⟩ := q
      obtain rfl : m = m' := Option.some.inj h
      exact hfg n n' m

theorem mode_map {f : Node × Mode → Node × Mode} (h : x.map Prod.snd = y.map Prod.snd)
    (hf : ∀ n n' m, (f (n, m)).2 = (f (n', m)).2) :
    (x.map f).map Prod.snd = (y.map f).map Prod.snd := by
  have hbind : ∀ z : Option (Node × Mode), z.map f = z.bind (some ∘ f) := fun _ =>
    Option.map_eq_bind
  rw [hbind, hbind]
  exact mode_bind h fun n n' m => congrArg some (hf n n' m)

end

mutual
/-- Both readings accept the same patterns, and the same flags are in force after them. -/
theorem mode_ofAsciiAst (m : Mode) (a : Ast) :
    (ofAsciiAst m a).map Prod.snd = (ofAst m a).map Prod.snd := by
  match a with
  | .assertion a => cases a <;> rfl
  | .set s =>
    have hset := ClassSet.isSome_asciiSet? m s
    rw [ofAsciiAst, ofAst, Option.map_map, Option.map_map]
    cases hx : s.asciiSet? m with
    | none =>
      rw [hx, eq_comm, Option.isSome_none, Option.isSome_eq_false_iff,
        Option.isNone_iff_eq_none] at hset
      rw [hset]
    | some x =>
      rw [hx, eq_comm, Option.isSome_some, Option.isSome_iff_exists] at hset
      obtain ⟨y, hy⟩ := hset
      rw [hy]
      rfl
  | .repetition least most greedy inner =>
    exact mode_map (mode_ofAsciiAst m inner) fun _ _ _ => rfl
  | .group (.capture index name) inner =>
    exact mode_map (mode_ofAsciiAst m inner) fun _ _ _ => rfl
  | .group (.plain changes) inner =>
    exact mode_map (mode_ofAsciiAst (m.switch changes) inner) fun _ _ _ => rfl
  | .alternation branches => exact mode_ofAsciiBranches m branches
  | .concat items => exact mode_ofAsciiItems m items
  | .empty | .flags _ | .literal _ _ | .dot => rfl

theorem mode_ofAsciiItems (m : Mode) (items : List Ast) :
    (ofAsciiItems m items).map Prod.snd = (ofItems m items).map Prod.snd := by
  match items with
  | [] => rfl
  | a :: items =>
    exact mode_bind (mode_ofAsciiAst m a) fun n n' m => mode_ofAsciiItemsAfter n n' m items

theorem mode_ofAsciiItemsAfter (first first' : Node) (m : Mode) (items : List Ast) :
    (ofAsciiItemsAfter first m items).map Prod.snd =
      (ofItemsAfter first' m items).map Prod.snd := by
  match items with
  | [] => rfl
  | a :: items =>
    exact mode_bind (mode_ofAsciiAst m a) fun n n' m => mode_ofAsciiItemsAfter _ _ m items

theorem mode_ofAsciiBranches (m : Mode) (branches : List Ast) :
    (ofAsciiBranches m branches).map Prod.snd = (ofBranches m branches).map Prod.snd := by
  match branches with
  | [] => rfl
  | [a] => exact mode_ofAsciiAst m a
  | a :: b :: branches =>
    exact mode_bind (mode_ofAsciiAst m a) fun n n' m =>
      mode_bind (mode_ofAsciiBranches m (b :: branches)) fun _ _ _ => rfl
end

end Node

end Gazetteer.Regex
