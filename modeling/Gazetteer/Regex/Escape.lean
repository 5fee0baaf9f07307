import Gazetteer.Regex.Ast
import Gazetteer.Regex.Blank

/-! Escapes.

What follows a backslash is a character, a class or an assertion. The same reader serves
inside and outside brackets; an assertion inside brackets is refused there. -/
namespace Gazetteer.Regex.Escape

/-- The characters with a meaning of their own. -/
def isMeta (c : Char) : Bool :=
  ['\\', '.', '+', '*', '?', '(', ')', '|', '[', ']', '{', '}', '^', '$', '#', '&', '-',
    '~'].contains c

/-- Whether a backslash before the character may be superfluous: true of ASCII characters
other than letters, digits and the angle brackets, which stand for word edges. -/
def isEscapable (c : Char) : Bool :=
  isMeta c || (Unicode.isAscii c && !c.isAlphanum && c != '<' && c != '>')

def isHex (c : Char) : Bool := (hexDigit? c).isSome

/-- Reads the code of a character: `width` digits, or any number between braces. -/
def readCode (verbose : Bool) (width : Nat) (cs : List Char) : Option (Ast × List Char) :=
  match skipBlanks verbose cs with
  | '{' :: cs =>
    match spanBlanks verbose isHex (skipBlanks verbose cs) with
    | (digits, '}' :: rest) =>
      if digits.isEmpty then none
      else (charOfCode? (hexValue digits)).map fun c => (.literal c false, skipBlanks verbose rest)
    | _ => none
  | cs =>
    match takeBlanks verbose isHex width cs with
    | some (digits, rest) =>
      (charOfCode? (hexValue digits)).map fun c => (.literal c (width == 2), rest)
    | none => none

/-- The parts around the first place where `mark` stands. -/
def splitAt? (mark : List Char) : List Char → Option (List Char × List Char)
  | [] => none
  | c :: cs =>
    if mark.isPrefixOf (c :: cs) then some ([], (c :: cs).drop mark.length)
    else (splitAt? mark cs).map fun (before, after) => (c :: before, after)

/-- What a property escape names: a value after `!=`, `:` or `=`, or a name that stands
alone. The three marks mean the same. -/
def propertyQuery (name : List Char) : PropertyQuery :=
  let found := splitAt? ['!', '='] name <|> splitAt? [':'] name <|> splitAt? ['='] name
  match found with
  | some (property, value) => .valued (.ofList property) (.ofList value)
  | none => .named (.ofList name)

/-- Reads the name of a property: one letter, or any text between braces. -/
def readProperty (verbose negated : Bool) (cs : List Char) : Option (Ast × List Char) :=
  match skipBlanks verbose cs with
  | [] => none
  | '{' :: cs =>
    match spanBlanks verbose (· != '}') (skipBlanks verbose cs) with
    | (name, '}' :: rest) => some (.set (.property (propertyQuery name) negated), rest)
    | _ => none
  | c :: rest =>
    if c == '\\' then none
    else some (.set (.property (.named (.ofList [c])) negated), skipBlanks verbose rest)

/-- The assertion of a word edge by name. -/
def wordEdge? (name : List Char) : Option Assertion :=
  match String.ofList name with
  | "start" => some .wordStart
  | "end" => some .wordEnd
  | "start-half" => some .wordStartHalf
  | "end-half" => some .wordEndHalf
  | _ => none

/-- Reads what may follow `\b`: the name of a word edge between braces. Braces that do not
start with a letter or hyphen belong to a repetition and are left alone. -/
def readBoundary (verbose : Bool) (cs : List Char) : Option (Ast × List Char) :=
  let isNameChar (c : Char) : Bool := c.isAlpha || c == '-'
  match cs with
  | '{' :: inner =>
    match skipBlanks verbose inner with
    | [] => none
    | c :: _ =>
      if isNameChar c then
        match spanBlanks verbose isNameChar (skipBlanks verbose inner) with
        | (name, '}' :: rest) => (wordEdge? name).map fun edge => (.assertion edge, rest)
        | _ => none
      else some (.assertion .wordBoundary, cs)
  | _ => some (.assertion .wordBoundary, cs)

/-- The escapes that are complete with their character. -/
def ofChar? (c : Char) : Option Ast :=
  match c with
  | 'd' => some (.set (.escape .digit false))
  | 'D' => some (.set (.escape .digit true))
  | 's' => some (.set (.escape .space false))
  | 'S' => some (.set (.escape .space true))
  | 'w' => some (.set (.escape .word false))
  | 'W' => some (.set (.escape .word true))
  | 'a' => some (.literal '\x07' false)
  | 'f' => some (.literal '\x0c' false)
  | 't' => some (.literal '\t' false)
  | 'n' => some (.literal '\n' false)
  | 'r' => some (.literal '\r' false)
  | 'v' => some (.literal '\x0b' false)
  | 'A' => some (.assertion .startText)
  | 'z' => some (.assertion .endText)
  | 'B' => some (.assertion .notWordBoundary)
  | '<' => some (.assertion .wordStart)
  | '>' => some (.assertion .wordEnd)
  | c => if isEscapable c then some (.literal c false) else none

/-- Reads what follows a backslash. -/
def read (verbose : Bool) : List Char → Option (Ast × List Char)
  | [] => none
  | 'x' :: cs => readCode verbose 2 cs
  | 'u' :: cs => readCode verbose 4 cs
  | 'U' :: cs => readCode verbose 8 cs
  | 'p' :: cs => readProperty verbose false cs
  | 'P' :: cs => readProperty verbose true cs
  | 'b' :: cs => readBoundary verbose cs
  | c :: cs => (ofChar? c).map fun a => (a, cs)

/-! ### Readers shorten the pattern -/

theorem length_readCode_le {verbose : Bool} {width : Nat} {cs rest : List Char} {a : Ast}
    (h : readCode verbose width cs = some (a, rest)) : rest.length ≤ cs.length := by
  have h₁ := length_skipBlanks_le verbose cs
  unfold readCode at h
  split at h
  · rename_i inner heq
    rw [heq] at h₁
    have h₂ := length_skipBlanks_le verbose inner
    have h₃ := length_spanBlanks_le verbose isHex (skipBlanks verbose inner)
    split at h
    · rename_i digits tail heq₂
      rw [heq₂] at h₃
      have h₄ := length_skipBlanks_le verbose tail
      split at h
      · simp at h
      · obtain ⟨c, -, hc⟩ := Option.map_eq_some_iff.1 h
        obtain ⟨-, rfl⟩ := Prod.mk.inj hc
        simp only [List.length_cons] at h₁ h₃
        omega
    · simp at h
  · split at h
    · rename_i digits tail heq₂
      obtain ⟨c, -, hc⟩ := Option.map_eq_some_iff.1 h
      obtain ⟨-, rfl⟩ := Prod.mk.inj hc
      exact Nat.le_trans (length_takeBlanks_le heq₂) h₁
    · simp at h

theorem length_readProperty_le {verbose negated : Bool} {cs rest : List Char} {a : Ast}
    (h : readProperty verbose negated cs = some (a, rest)) : rest.length ≤ cs.length := by
  have h₁ := length_skipBlanks_le verbose cs
  unfold readProperty at h
  split at h
  · simp at h
  · rename_i inner heq
    rw [heq] at h₁
    have h₂ := length_skipBlanks_le verbose inner
    have h₃ := length_spanBlanks_le verbose (· != '}') (skipBlanks verbose inner)
    split at h
    · rename_i name tail heq₂
      rw [heq₂] at h₃
      obtain ⟨-, rfl⟩ := Prod.mk.inj (Option.some.inj h)
      simp only [List.length_cons] at h₁ h₃
      omega
    · simp at h
  · rename_i c tail _ heq
    rw [heq] at h₁
    have h₂ := length_skipBlanks_le verbose tail
    split at h
    · simp at h
    · obtain ⟨-, rfl⟩ := Prod.mk.inj (Option.some.inj h)
      simp only [List.length_cons] at h₁
      omega

theorem length_readBoundary_le {verbose : Bool} {cs rest : List Char} {a : Ast}
    (h : readBoundary verbose cs = some (a, rest)) : rest.length ≤ cs.length := by
  unfold readBoundary at h
  simp only at h
  split at h
  · rename_i inner
    have h₁ := length_skipBlanks_le verbose inner
    have h₂ :=
      length_spanBlanks_le verbose (fun c => c.isAlpha || c == '-') (skipBlanks verbose inner)
    split at h
    · simp at h
    · split at h
      · split at h
        · rename_i name tail heq₂
          rw [heq₂] at h₂
          obtain ⟨c, -, hc⟩ := Option.map_eq_some_iff.1 h
          obtain ⟨-, rfl⟩ := Prod.mk.inj hc
          simp only [List.length_cons] at h₂ ⊢
          omega
        · simp at h
      · obtain ⟨-, rfl⟩ := Prod.mk.inj (Option.some.inj h)
        exact Nat.le_refl _
  · obtain ⟨-, rfl⟩ := Prod.mk.inj (Option.some.inj h)
    exact Nat.le_refl _

theorem length_read_lt {verbose : Bool} {cs rest : List Char} {a : Ast}
    (h : read verbose cs = some (a, rest)) : rest.length < cs.length := by
  unfold read at h
  split at h
  case h_1 => simp at h
  case h_2 | h_3 | h_4 => exact Nat.lt_succ_of_le (length_readCode_le h)
  case h_5 | h_6 => exact Nat.lt_succ_of_le (length_readProperty_le h)
  case h_7 => exact Nat.lt_succ_of_le (length_readBoundary_le h)
  case h_8 =>
    obtain ⟨_, -, hc⟩ := Option.map_eq_some_iff.1 h
    obtain ⟨-, rfl⟩ := Prod.mk.inj hc
    exact Nat.lt_succ_self _

end Gazetteer.Regex.Escape
