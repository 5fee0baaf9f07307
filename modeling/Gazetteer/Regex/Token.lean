import Gazetteer.Regex.Bracket

/-! Tokens of a pattern.

A token is the shortest stretch of a pattern that can be understood without what is around
it: a group's start with its name or flags, a repetition operator with its counts, a whole
bracketed class. How tokens are read depends only on whether the pattern is verbose there. -/
namespace Gazetteer.Regex

/-- How a group begins. -/
inductive GroupStart
  | capture (name : Option String)
  | plain (changes : FlagChanges)
  deriving Repr, DecidableEq

inductive Token
  | openGroup (start : GroupStart)
  /-- Flags for the rest of the group around them. -/
  | flags (changes : FlagChanges)
  | closeGroup
  | bar
  | repetition (least : Nat) (most : Option Nat) (greedy : Bool)
  | atom (a : Ast)
  deriving Repr

namespace Token

/-! ### Groups -/

def flag? : Char → Option Flag
  | 'i' => some .caseInsensitive
  | 'm' => some .multiLine
  | 's' => some .dotMatchesNewLine
  | 'U' => some .swapGreed
  | 'u' => some .unicode
  | 'R' => some .crlf
  | 'x' => some .verbose
  | _ => none

/-- Reads flags up to the colon or parenthesis after them. A flag is named once, and a hyphen,
of which there is one at most, stands before the flags that are switched off. The answer
tells whether a colon ended the list. -/
def readFlags (negated afterHyphen : Bool) (seen : FlagChanges) :
    List Char → Option (FlagChanges × Bool × List Char)
  | [] => none
  | c :: cs =>
    if c == ':' || c == ')' then if afterHyphen then none else some (seen.reverse, c == ':', cs)
    else if c == '-' then if negated then none else readFlags true true seen cs
    else match flag? c with
      | none => none
      | some flag =>
        if seen.any (·.1 == flag) then none
        else readFlags negated false ((flag, !negated) :: seen) cs

/-- Whether a character may stand first in a group's name. -/
def isNameStart (c : Char) : Bool := c == '_' || Unicode.isAlphabetic c

/-- Whether a character may stand in a group's name after the first. -/
def isNamePart (c : Char) : Bool :=
  c == '_' || c == '.' || c == '[' || c == ']' || Unicode.isAlphanumeric c

/-- Reads a group's name and the bracket after it. -/
def readName (cs : List Char) : Option (String × List Char) :=
  match cs.takeWhile (· != '>'), cs.dropWhile (· != '>') with
  | first :: others, '>' :: rest =>
    if isNameStart first && others.all isNamePart then some (.ofList (first :: others), rest)
    else none
  | _, _ => none

/-- Reads what follows an opening parenthesis. Conditions on the surrounding text are not
part of the notation. -/
def readGroup (cs : List Char) : Option (Token × List Char) :=
  match cs with
  | '?' :: '=' :: _ | '?' :: '!' :: _ | '?' :: '<' :: '=' :: _ | '?' :: '<' :: '!' :: _ => none
  | '?' :: 'P' :: '<' :: rest | '?' :: '<' :: rest =>
    (readName rest).map fun (name, rest) => (.openGroup (.capture (some name)), rest)
  | '?' :: rest =>
    match readFlags false false [] rest with
    | none => none
    | some (changes, true, rest) => some (.openGroup (.plain changes), rest)
    | some (changes, false, rest) => if changes.isEmpty then none else some (.flags changes, rest)
  | rest => some (.openGroup (.capture none), rest)

/-! ### Repetitions -/

/-- Reads the mark that makes a repetition prefer fewer turns. -/
def readLazy : List Char → Bool × List Char
  | '?' :: rest => (true, rest)
  | rest => (false, rest)

/-- Reads the counts after an opening brace, with the closing brace. -/
def readCounts (verbose : Bool) (cs : List Char) : Option (Nat × Option Nat × List Char) := do
  let (least, rest) ← readCount verbose (skipBlanks verbose cs)
  match rest with
  | '}' :: rest => return (least, some least, rest)
  | ',' :: rest =>
    match skipBlanks verbose rest with
    | '}' :: rest => return (least, none, rest)
    | rest =>
      let (most, rest) ← readCount verbose rest
      match rest with
      | '}' :: rest => if least ≤ most then return (least, some most, rest) else none
      | _ => none
  | _ => none

/-- Reads a repetition with its operator already taken. -/
def repeated (least : Nat) (most : Option Nat) (rest : List Char) : Token × List Char :=
  let (isLazy, rest) := readLazy rest
  (.repetition least most !isLazy, rest)

/-! ### Reading -/

/-- Reads the token that stands first. -/
def read (verbose : Bool) : List Char → Option (Token × List Char)
  | [] => none
  | '(' :: rest => readGroup (skipBlanks verbose rest)
  | ')' :: rest => some (.closeGroup, rest)
  | '|' :: rest => some (.bar, rest)
  | '[' :: rest => do
    let (bracket, rest) ← Bracket.openAfter verbose rest
    let (s, rest) ← Bracket.read verbose bracket [] rest
    return (.atom (.set s), rest)
  | '?' :: rest => some (repeated 0 (some 1) rest)
  | '*' :: rest => some (repeated 0 none rest)
  | '+' :: rest => some (repeated 1 none rest)
  | '{' :: rest =>
    (readCounts verbose rest).map fun (least, most, rest) =>
      repeated least most (skipBlanks verbose rest)
  | '\\' :: rest => (Escape.read verbose rest).map fun (a, rest) => (.atom a, rest)
  | '.' :: rest => some (.atom .dot, rest)
  | '^' :: rest => some (.atom (.assertion .startLine), rest)
  | '$' :: rest => some (.atom (.assertion .endLine), rest)
  | c :: rest => some (.atom (.literal c false), rest)

/-! ### Reading shortens the pattern -/

theorem length_readFlags_lt {negated afterHyphen isGroup : Bool} {seen changes : FlagChanges}
    {cs rest : List Char}
    (h : readFlags negated afterHyphen seen cs = some (changes, isGroup, rest)) :
    rest.length < cs.length := by
  induction cs generalizing negated afterHyphen seen with
  | nil => simp [readFlags] at h
  | cons c cs ih =>
    simp only [readFlags] at h
    split at h
    · split at h
      · simp at h
      · simp only [Option.some.injEq, Prod.mk.injEq] at h
        rw [← h.2.2]
        exact Nat.lt_succ_self _
    · split at h
      · split at h
        · simp at h
        · exact Nat.lt_succ_of_lt (ih h)
      · split at h
        · simp at h
        · split at h
          · simp at h
          · exact Nat.lt_succ_of_lt (ih h)

theorem length_readName_le {cs rest : List Char} {name : String}
    (h : readName cs = some (name, rest)) : rest.length ≤ cs.length := by
  have h₁ := length_dropWhile_le (· != '>') cs
  unfold readName at h
  split at h
  · rename_i heq
    rw [heq] at h₁
    split at h
    · obtain ⟨-, rfl⟩ := Prod.mk.inj (Option.some.inj h)
      exact Nat.le_of_succ_le h₁
    · simp at h
  · simp at h

theorem length_readGroup_le {cs rest : List Char} {t : Token}
    (h : readGroup cs = some (t, rest)) : rest.length ≤ cs.length := by
  unfold readGroup at h
  split at h
  iterate 4 · simp at h
  iterate 2
    · obtain ⟨⟨name, tail⟩, hn, hp⟩ := Option.map_eq_some_iff.1 h
      obtain ⟨-, rfl⟩ := Prod.mk.inj hp
      have := length_readName_le hn
      simp only [List.length_cons]
      omega
  · split at h
    · simp at h
    · rename_i hf
      obtain ⟨-, rfl⟩ := Prod.mk.inj (Option.some.inj h)
      exact Nat.le_of_lt (Nat.lt_succ_of_lt (length_readFlags_lt hf))
    · rename_i hf
      split at h
      · simp at h
      · obtain ⟨-, rfl⟩ := Prod.mk.inj (Option.some.inj h)
        exact Nat.le_of_lt (Nat.lt_succ_of_lt (length_readFlags_lt hf))
  · obtain ⟨-, rfl⟩ := Prod.mk.inj (Option.some.inj h)
    exact Nat.le_refl _

theorem length_readLazy_le (cs : List Char) : (readLazy cs).2.length ≤ cs.length := by
  unfold readLazy
  split <;> simp

theorem length_repeated_le (least : Nat) (most : Option Nat) (cs : List Char) :
    (repeated least most cs).2.length ≤ cs.length :=
  length_readLazy_le cs

theorem length_readCounts_le {verbose : Bool} {cs rest : List Char} {least : Nat}
    {most : Option Nat} (h : readCounts verbose cs = some (least, most, rest)) :
    rest.length ≤ cs.length := by
  unfold readCounts at h
  have h₁ := length_skipBlanks_le verbose cs
  obtain ⟨⟨n, tail⟩, hn, h⟩ := Option.bind_eq_some_iff.1 h
  have h₂ := length_readCount_le hn
  simp only at h
  split at h
  · obtain ⟨-, -, rfl⟩ : n = least ∧ some n = most ∧ _ = rest := by simpa using h
    simp only [List.length_cons] at h₂
    omega
  · rename_i tail'
    have h₃ := length_skipBlanks_le verbose tail'
    simp only [List.length_cons] at h₂
    split at h
    · rename_i heq
      rw [heq] at h₃
      obtain ⟨-, -, rfl⟩ : n = least ∧ none = most ∧ _ = rest := by simpa using h
      simp only [List.length_cons] at h₃
      omega
    · obtain ⟨⟨m, last⟩, hm, h⟩ := Option.bind_eq_some_iff.1 h
      have h₄ := length_readCount_le hm
      simp only at h
      split at h
      · split at h
        · obtain ⟨-, -, rfl⟩ : n = least ∧ some m = most ∧ _ = rest := by simpa using h
          simp only [List.length_cons] at h₄
          omega
        · simp at h
      · simp at h
  · simp at h

theorem length_read_lt {verbose : Bool} {cs rest : List Char} {t : Token}
    (h : read verbose cs = some (t, rest)) : rest.length < cs.length := by
  unfold read at h
  split at h
  case h_1 => simp at h
  case h_2 =>
    exact Nat.lt_succ_of_le (Nat.le_trans (length_readGroup_le h) (length_skipBlanks_le _ _))
  case h_5 =>
    obtain ⟨⟨b, tail⟩, hb, h⟩ := Option.bind_eq_some_iff.1 h
    obtain ⟨⟨s, tail'⟩, hs, h⟩ := Option.bind_eq_some_iff.1 h
    obtain ⟨-, rfl⟩ := Prod.mk.inj (Option.some.inj h)
    have h₁ := Bracket.length_openAfter_le hb
    have h₂ := Bracket.length_read_lt hs
    simp only [List.length_cons]
    omega
  case h_9 =>
    obtain ⟨⟨least, most, tail⟩, hc, h⟩ := Option.map_eq_some_iff.1 h
    have h₁ := length_readCounts_le hc
    have h₂ := length_skipBlanks_le verbose tail
    have h₃ := length_repeated_le least most (skipBlanks verbose tail)
    simp only at h
    rw [h] at h₃
    exact Nat.lt_succ_of_le (Nat.le_trans h₃ (Nat.le_trans h₂ h₁))
  case h_10 =>
    obtain ⟨⟨a, tail⟩, ha, h⟩ := Option.map_eq_some_iff.1 h
    obtain ⟨-, rfl⟩ := Prod.mk.inj h
    exact Nat.lt_succ_of_lt (Escape.length_read_lt ha)
  case h_6 | h_7 | h_8 =>
    have h₁ := congrArg (fun p => p.2.length) (Option.some.inj h)
    simp only at h₁
    rw [← h₁]
    exact Nat.lt_succ_of_le (length_repeated_le _ _ _)
  all_goals
    obtain ⟨-, rfl⟩ := Prod.mk.inj (Option.some.inj h)
    exact Nat.lt_succ_self _

end Token
end Gazetteer.Regex
