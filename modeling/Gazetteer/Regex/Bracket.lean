import Gazetteer.Regex.Escape

/-! Bracketed classes.

Brackets nest, and inside them two classes may be joined by an operator, all operators
grouping to the left. An open bracket is kept as a `Bracket`, so a class is read in one pass
over its text with the brackets that are still open beside it. -/
namespace Gazetteer.Regex

/-- A bracket whose end has not been reached. -/
structure Bracket where
  negated : Bool
  /-- The operator that waits for its right side, with its left side. -/
  pending : Option (ClassOp × ClassSet)
  /-- The members since the bracket or the operator, last first. -/
  items : List ClassSet
  deriving Repr

namespace Bracket

def push (b : Bracket) (item : ClassSet) : Bracket :=
  { b with items := item :: b.items }

/-- Everything read since the bracket as one expression. -/
def content (b : Bracket) : ClassSet :=
  let right := ClassSet.ofItems b.items.reverse
  match b.pending with
  | none => right
  | some (op, left) => .binary op left right

/-- Makes what was read the left side of an operator. -/
def operate (b : Bracket) (op : ClassOp) : Bracket :=
  { b with pending := some (op, b.content), items := [] }

def close (b : Bracket) : ClassSet := .bracketed b.negated b.content

/-! ### Opening -/

/-- Reads a negation. -/
def readNegation (verbose : Bool) : List Char → Bool × List Char
  | '^' :: rest => (true, skipBlanks verbose rest)
  | rest => (false, rest)

/-- Reads the members that only stand for themselves because they come first: hyphens, or a
closing bracket. -/
def readLeading (verbose : Bool) : List Char → List ClassSet × List Char
  | ']' :: rest => ([.literal ']'], skipBlanks verbose rest)
  | cs =>
    let (hyphens, rest) := spanBlanks verbose (· == '-') cs
    (hyphens.map .literal, rest)

/-- Reads what follows an opening bracket. -/
def openAfter (verbose : Bool) (cs : List Char) : Option (Bracket × List Char) :=
  let (negated, cs) := readNegation verbose (skipBlanks verbose cs)
  match readLeading verbose cs with
  | (_, []) => none
  | (items, rest) => some ({ negated, pending := none, items := items.reverse }, rest)

/-! ### Members -/

/-- The classes written between colons. -/
def asciiClass? (name : List Char) : Option AsciiClass :=
  match String.ofList name with
  | "alnum" => some .alnum
  | "alpha" => some .alpha
  | "ascii" => some .ascii
  | "blank" => some .blank
  | "cntrl" => some .cntrl
  | "digit" => some .digit
  | "graph" => some .graph
  | "lower" => some .lower
  | "print" => some .print
  | "punct" => some .punct
  | "space" => some .space
  | "upper" => some .upper
  | "word" => some .word
  | "xdigit" => some .xdigit
  | _ => none

/-- Reads a class between colons after its opening bracket. Anything else is no error: the
bracket then opens a nested class. -/
def readAscii (cs : List Char) : Option (ClassSet × List Char) :=
  match cs with
  | ':' :: cs =>
    let (negated, cs) := match cs with
      | '^' :: rest => (true, rest)
      | rest => (false, rest)
    match cs.dropWhile (· != ':') with
    | ':' :: ']' :: rest =>
      (asciiClass? (cs.takeWhile (· != ':'))).map fun k => (.ascii k negated, rest)
    | _ => none
  | _ => none

/-- Reads one character or escape. -/
def readItem (verbose : Bool) : List Char → Option (Ast × List Char)
  | [] => none
  | '\\' :: cs => Escape.read verbose cs
  | c :: cs => some (.literal c false, cs)

/-- An item as a member: assertions have no place in a class. -/
def member? : Ast → Option ClassSet
  | .literal c _ => some (.literal c)
  | .set s => some s
  | _ => none

/-- The range between two items, which must be characters in order. -/
def range? : Ast → Ast → Option ClassSet
  | .literal first _, .literal last _ => if first ≤ last then some (.range first last) else none
  | _, _ => none

/-- Drops white space and at most one `#`. -/
def dropToContent (inComment : Bool) : List Char → List Char
  | [] => []
  | c :: cs =>
    if Unicode.isSpace c then dropToContent inComment cs
    else if c == '#' && !inComment then dropToContent true cs
    else c :: cs

/-- The character that decides whether a hyphen makes a range. In a verbose pattern it is the
next one after white space, a comment's text included. -/
def afterHyphen (verbose : Bool) (cs : List Char) : Option Char :=
  if verbose then (dropToContent false cs).head? <|> cs.head? else cs.head?

/-- Reads a member: a range, or an item that stands alone. A hyphen before a closing bracket
or another hyphen makes no range. -/
def readMember (verbose : Bool) (cs : List Char) : Option (ClassSet × List Char) := do
  let (first, rest) ← readItem verbose cs
  match skipBlanks verbose rest with
  | [] => none
  | '-' :: tail =>
    let next := afterHyphen verbose tail
    if next == some ']' || next == some '-' then
      return (← member? first, '-' :: tail)
    else
      let (last, rest) ← readItem verbose (skipBlanks verbose tail)
      return (← range? first last, rest)
  | rest => return (← member? first, rest)

/-- What stands at a place in a class. -/
inductive Piece
  | member (s : ClassSet)
  | opening (b : Bracket)
  | closing
  | operator (op : ClassOp)
  deriving Repr

/-- Reads the piece that stands first. -/
def readPiece (verbose : Bool) : List Char → Option (Piece × List Char)
  | [] => none
  | '[' :: rest =>
    match readAscii rest with
    | some (item, rest) => some (.member item, rest)
    | none => (openAfter verbose rest).map fun (b, rest) => (.opening b, rest)
  | ']' :: rest => some (.closing, rest)
  | '&' :: '&' :: rest => some (.operator .intersection, rest)
  | '-' :: '-' :: rest => some (.operator .difference, rest)
  | '~' :: '~' :: rest => some (.operator .symmetricDifference, rest)
  | cs => (readMember verbose cs).map fun (item, rest) => (.member item, rest)

/-! ### Readers shorten the pattern -/

theorem length_readNegation_le (verbose : Bool) (cs : List Char) :
    (readNegation verbose cs).2.length ≤ cs.length := by
  unfold readNegation
  split
  · exact Nat.le_succ_of_le (length_skipBlanks_le verbose _)
  · exact Nat.le_refl _

theorem length_readLeading_le (verbose : Bool) (cs : List Char) :
    (readLeading verbose cs).2.length ≤ cs.length := by
  unfold readLeading
  split
  · exact Nat.le_succ_of_le (length_skipBlanks_le verbose _)
  · exact length_spanBlanks_le verbose (· == '-') _

theorem length_openAfter_le {verbose : Bool} {cs rest : List Char} {b : Bracket}
    (h : openAfter verbose cs = some (b, rest)) : rest.length ≤ cs.length := by
  have h₁ := length_skipBlanks_le verbose cs
  have h₂ := length_readNegation_le verbose (skipBlanks verbose cs)
  have h₃ := length_readLeading_le verbose (readNegation verbose (skipBlanks verbose cs)).2
  unfold openAfter at h
  simp only at h
  split at h
  · simp at h
  · rename_i heq
    obtain ⟨-, rfl⟩ := Prod.mk.inj (Option.some.inj h)
    rw [heq] at h₃
    exact Nat.le_trans h₃ (Nat.le_trans h₂ h₁)

theorem length_readAscii_lt {cs rest : List Char} {s : ClassSet}
    (h : readAscii cs = some (s, rest)) : rest.length < cs.length := by
  unfold readAscii at h
  split at h
  · rename_i tail
    have h₂ : (match tail with
        | '^' :: rest => (true, rest)
        | rest => (false, rest)).2.length ≤ tail.length := by
      split <;> simp
    generalize (match tail with
        | '^' :: rest => (true, rest)
        | rest => (false, rest)) = p at h h₂
    obtain ⟨negated, name⟩ := p
    have h₃ := length_dropWhile_le (· != ':') name
    simp only at h h₂
    split at h
    · rename_i last heq
      rw [heq] at h₃
      obtain ⟨c, -, hc⟩ := Option.map_eq_some_iff.1 h
      obtain ⟨-, rfl⟩ := Prod.mk.inj hc
      simp only [List.length_cons] at h₃ ⊢
      omega
    · simp at h
  · simp at h

theorem length_readItem_lt {verbose : Bool} {cs rest : List Char} {a : Ast}
    (h : readItem verbose cs = some (a, rest)) : rest.length < cs.length := by
  unfold readItem at h
  split at h
  · simp at h
  · have := Escape.length_read_lt h
    simp only [List.length_cons]
    omega
  · obtain ⟨-, rfl⟩ := Prod.mk.inj (Option.some.inj h)
    exact Nat.lt_succ_self _

theorem length_readMember_lt {verbose : Bool} {cs rest : List Char} {s : ClassSet}
    (h : readMember verbose cs = some (s, rest)) : rest.length < cs.length := by
  unfold readMember at h
  obtain ⟨⟨first, tail⟩, hfirst, h⟩ := Option.bind_eq_some_iff.1 h
  have h₁ := length_readItem_lt hfirst
  have h₂ := length_skipBlanks_le verbose tail
  simp only at h
  split at h
  · simp at h
  · rename_i tail' heq
    rw [heq] at h₂
    have h₃ := length_skipBlanks_le verbose tail'
    split at h
    · obtain ⟨m, -, h⟩ := Option.bind_eq_some_iff.1 h
      obtain ⟨-, rfl⟩ := Prod.mk.inj (Option.some.inj h)
      omega
    · obtain ⟨⟨last, rest'⟩, hlast, h⟩ := Option.bind_eq_some_iff.1 h
      have h₄ := length_readItem_lt hlast
      obtain ⟨r, -, h⟩ := Option.bind_eq_some_iff.1 h
      obtain ⟨-, rfl⟩ := Prod.mk.inj (Option.some.inj h)
      simp only [List.length_cons] at h₂ ⊢
      omega
  · obtain ⟨m, -, h⟩ := Option.bind_eq_some_iff.1 h
    obtain ⟨-, rfl⟩ := Prod.mk.inj (Option.some.inj h)
    omega

theorem length_readPiece_lt {verbose : Bool} {cs rest : List Char} {piece : Piece}
    (h : readPiece verbose cs = some (piece, rest)) : rest.length < cs.length := by
  unfold readPiece at h
  split at h
  · simp at h
  · split at h
    · rename_i ha
      obtain ⟨-, rfl⟩ := Prod.mk.inj (Option.some.inj h)
      exact Nat.lt_succ_of_lt (length_readAscii_lt ha)
    · obtain ⟨⟨b, tail⟩, ho, hp⟩ := Option.map_eq_some_iff.1 h
      obtain ⟨-, rfl⟩ := Prod.mk.inj hp
      exact Nat.lt_succ_of_le (length_openAfter_le ho)
  · obtain ⟨-, rfl⟩ := Prod.mk.inj (Option.some.inj h)
    exact Nat.lt_succ_self _
  iterate 3
    · obtain ⟨-, rfl⟩ := Prod.mk.inj (Option.some.inj h)
      exact Nat.lt_succ_of_lt (Nat.lt_succ_self _)
  · obtain ⟨⟨item, tail⟩, hm, hp⟩ := Option.map_eq_some_iff.1 h
    obtain ⟨-, rfl⟩ := Prod.mk.inj hp
    exact length_readMember_lt hm

/-! ### The whole class -/

/-- Reads a class to its last closing bracket. `inner` is the innermost open bracket and
`outer` holds the brackets around it. -/
def read (verbose : Bool) (inner : Bracket) (outer : List Bracket) (cs : List Char) :
    Option (ClassSet × List Char) :=
  match h : readPiece verbose (skipBlanks verbose cs) with
  | none => none
  | some (piece, rest) =>
    have : rest.length < cs.length :=
      Nat.lt_of_lt_of_le (length_readPiece_lt h) (length_skipBlanks_le verbose cs)
    match piece, outer with
    | .member item, outer => read verbose (inner.push item) outer rest
    | .opening b, outer => read verbose b (inner :: outer) rest
    | .operator op, outer => read verbose (inner.operate op) outer rest
    | .closing, b :: outer => read verbose (b.push inner.close) outer rest
    | .closing, [] => some (inner.close, rest)
termination_by cs.length

theorem length_read_lt {verbose : Bool} {inner : Bracket} {outer : List Bracket}
    {cs rest : List Char} {s : ClassSet} (h : read verbose inner outer cs = some (s, rest)) :
    rest.length < cs.length := by
  fun_induction read verbose inner outer cs with
  | case1 => simp at h
  | case2 | case3 | case4 | case5 =>
    rename_i hlt ih
    exact Nat.lt_trans (ih h) hlt
  | case6 =>
    rename_i hlt
    obtain ⟨-, rfl⟩ := Prod.mk.inj (Option.some.inj h)
    exact hlt

end Bracket
end Gazetteer.Regex
