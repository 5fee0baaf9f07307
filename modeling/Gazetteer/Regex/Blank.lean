import Gazetteer.Unicode.CharClass

/-! What a verbose pattern leaves out.

A verbose pattern may hold white space and comments between the characters that count. A
comment runs from `#` to the end of its line. Several pieces of syntax are read one
character at a time with blanks between, so the readers here are shared by all of them.
Every reader returns the rest of the pattern, which is never longer than what it was given. -/
namespace Gazetteer.Regex

/-- Drops white space and comments; `inComment` says that the text starts inside one. -/
def dropBlanks (inComment : Bool) : List Char → List Char
  | [] => []
  | c :: cs =>
    if inComment then dropBlanks (c != '\n') cs
    else if Unicode.isSpace c then dropBlanks false cs
    else if c == '#' then dropBlanks true cs
    else c :: cs

/-- Drops blanks where the pattern is verbose. -/
def skipBlanks (verbose : Bool) (cs : List Char) : List Char :=
  if verbose then dropBlanks false cs else cs

theorem length_dropBlanks_le (inComment : Bool) (cs : List Char) :
    (dropBlanks inComment cs).length ≤ cs.length := by
  induction cs generalizing inComment with
  | nil => simp [dropBlanks]
  | cons c cs ih =>
    have h₁ := ih (c != '\n')
    have h₂ := ih false
    have h₃ := ih true
    simp only [dropBlanks, List.length_cons]
    split
    · omega
    · split
      · omega
      · split
        · omega
        · simp

theorem length_skipBlanks_le (verbose : Bool) (cs : List Char) :
    (skipBlanks verbose cs).length ≤ cs.length := by
  unfold skipBlanks
  split
  · exact length_dropBlanks_le false cs
  · exact Nat.le_refl _

/-! ### Characters with blanks between -/

/-- The characters up to the first that fails the test, each with the blanks after it
dropped, and the rest. -/
def spanBlanks (verbose : Bool) (test : Char → Bool) (cs : List Char) : List Char × List Char :=
  match cs with
  | [] => ([], [])
  | c :: cs =>
    if test c then
      have := length_skipBlanks_le verbose cs
      let (taken, rest) := spanBlanks verbose test (skipBlanks verbose cs)
      (c :: taken, rest)
    else ([], c :: cs)
termination_by cs.length
decreasing_by simp only [List.length_cons]; omega

/-- The given number of characters that pass the test, with the blanks after each dropped. -/
def takeBlanks (verbose : Bool) (test : Char → Bool) : Nat → List Char →
    Option (List Char × List Char)
  | 0, cs => some ([], cs)
  | _ + 1, [] => none
  | n + 1, c :: cs =>
    if test c then
      (takeBlanks verbose test n (skipBlanks verbose cs)).map fun (taken, rest) =>
        (c :: taken, rest)
    else none

theorem length_spanBlanks_le (verbose : Bool) (test : Char → Bool) (cs : List Char) :
    (spanBlanks verbose test cs).2.length ≤ cs.length := by
  fun_induction spanBlanks verbose test cs with
  | case1 => simp
  | case2 c cs _ hle taken rest heq ih =>
    rw [heq] at ih
    simp only [List.length_cons] at ih ⊢
    omega
  | case3 => simp

theorem length_takeBlanks_le {verbose : Bool} {test : Char → Bool} {n : Nat}
    {cs taken rest : List Char} (h : takeBlanks verbose test n cs = some (taken, rest)) :
    rest.length ≤ cs.length := by
  induction n generalizing cs taken with
  | zero => simp_all [takeBlanks]
  | succ n ih =>
    cases cs with
    | nil => simp [takeBlanks] at h
    | cons c cs =>
      simp only [takeBlanks] at h
      split at h
      · obtain ⟨⟨taken', rest'⟩, h', heq⟩ := Option.map_eq_some_iff.1 h
        simp only [Prod.mk.injEq] at heq
        have := ih (heq.2 ▸ h')
        have := length_skipBlanks_le verbose cs
        simp only [List.length_cons]
        omega
      · simp at h

/-! ### Numbers -/

/-- The value of decimal digits. -/
def decimalValue (digits : List Char) : Nat :=
  digits.foldl (fun n c => 10 * n + (c.toNat - '0'.toNat)) 0

/-- The value of a hexadecimal digit. -/
def hexDigit? (c : Char) : Option Nat :=
  if c.isDigit then some (c.toNat - '0'.toNat)
  else if 'a' ≤ c ∧ c ≤ 'f' then some (c.toNat - 'a'.toNat + 10)
  else if 'A' ≤ c ∧ c ≤ 'F' then some (c.toNat - 'A'.toNat + 10)
  else none

/-- The value of hexadecimal digits. -/
def hexValue (digits : List Char) : Nat :=
  digits.foldl (fun n c => 16 * n + (hexDigit? c).getD 0) 0

/-- The character with a code, if there is one. -/
def charOfCode? (n : Nat) : Option Char :=
  if n.isValidChar then some (Char.ofNat n) else none

/-- Reads a repetition count: white space, digits, white space. Counts stay below 2^32. -/
def readCount (verbose : Bool) (cs : List Char) : Option (Nat × List Char) :=
  let (digits, rest) := spanBlanks verbose Char.isDigit (cs.dropWhile Unicode.isSpace)
  if digits.isEmpty || decimalValue digits ≥ Nat.pow 2 32 then none
  else some (decimalValue digits, if verbose then rest else rest.dropWhile Unicode.isSpace)

theorem length_dropWhile_le (test : Char → Bool) (cs : List Char) :
    (cs.dropWhile test).length ≤ cs.length :=
  (List.dropWhile_sublist test).length_le

theorem length_readCount_le {verbose : Bool} {cs rest : List Char} {n : Nat}
    (h : readCount verbose cs = some (n, rest)) : rest.length ≤ cs.length := by
  have h₁ := length_dropWhile_le Unicode.isSpace cs
  have h₂ := length_spanBlanks_le verbose Char.isDigit (cs.dropWhile Unicode.isSpace)
  unfold readCount at h
  generalize spanBlanks verbose Char.isDigit (cs.dropWhile Unicode.isSpace) = p at h h₂
  obtain ⟨digits, tail⟩ := p
  have h₃ := length_dropWhile_le Unicode.isSpace tail
  grind

end Gazetteer.Regex
