import Gazetteer.Decimal.Nearest
import Gazetteer.Json.Value

/-! JSON tokens.

The text of a value is a sequence of marks and scalars with white space between. A string's
escapes are resolved here, and a number is settled as an integer or a float. -/
namespace Gazetteer.Json

inductive Token
  | openArray
  | closeArray
  | openObject
  | closeObject
  | comma
  | colon
  | scalar (v : Json)
  deriving Repr

namespace Token

/-! ### Strings -/

def hexDigit? (c : Char) : Option Nat :=
  if c.isDigit then some (c.toNat - '0'.toNat)
  else if 'a' ≤ c ∧ c ≤ 'f' then some (c.toNat - 'a'.toNat + 10)
  else if 'A' ≤ c ∧ c ≤ 'F' then some (c.toNat - 'A'.toNat + 10)
  else none

/-- The unit written as four hexadecimal digits. -/
def unit? (a b c d : Char) : Option Nat := do
  return 4096 * (← hexDigit? a) + 256 * (← hexDigit? b) + 16 * (← hexDigit? c) + (← hexDigit? d)

/-- The character of an escape with one letter. -/
def escaped? : Char → Option Char
  | '"' => some '"'
  | '\\' => some '\\'
  | '/' => some '/'
  | 'b' => some '\x08'
  | 'f' => some '\x0c'
  | 'n' => some '\n'
  | 'r' => some '\r'
  | 't' => some '\t'
  | _ => none

/-- Reads the rest of a string after its opening quote. A character beyond the first 65536 is
written as two units, and neither of them stands alone. -/
def readString (taken : List Char) : List Char → Option (String × List Char)
  | [] => none
  | '"' :: rest => some (.ofList taken.reverse, rest)
  | '\\' :: 'u' :: a :: b :: c :: d :: rest =>
    match unit? a b c d with
    | none => none
    | some high =>
      if high < 0xD800 ∨ 0xDFFF < high then readString (Char.ofNat high :: taken) rest
      else if 0xDC00 ≤ high then none
      else match rest with
        | '\\' :: 'u' :: a :: b :: c :: d :: rest =>
          match unit? a b c d with
          | none => none
          | some low =>
            if 0xDC00 ≤ low ∧ low ≤ 0xDFFF then
              let code := 0x10000 + 1024 * (high - 0xD800) + (low - 0xDC00)
              readString (Char.ofNat code :: taken) rest
            else none
        | _ => none
  | '\\' :: c :: rest =>
    match escaped? c with
    | none => none
    | some c => readString (c :: taken) rest
  | c :: rest => if c.toNat < 32 then none else readString (c :: taken) rest

/-! ### Numbers -/

/-- The parts of a number. -/
structure Number where
  negative : Bool
  whole : List Char
  /-- The digits after the point, if there is one. -/
  fraction : Option (List Char)
  exponent : Option Int
  deriving Repr, DecidableEq

/-- Reads digits, of which there must be one at least. -/
def readDigits (cs : List Char) : Option (List Char × List Char) :=
  let digits := cs.takeWhile Char.isDigit
  if digits.isEmpty then none else some (digits, cs.dropWhile Char.isDigit)

/-- Reads the digits before the point. A zero stands alone. -/
def readWhole : List Char → Option (List Char × List Char)
  | '0' :: rest => if rest.head?.any Char.isDigit then none else some (['0'], rest)
  | cs => readDigits cs

def readFraction : List Char → Option (Option (List Char) × List Char)
  | '.' :: rest => (readDigits rest).map fun (digits, rest) => (some digits, rest)
  | rest => some (none, rest)

def readExponent : List Char → Option (Option Int × List Char)
  | c :: rest =>
    if c == 'e' || c == 'E' then
      let (negative, rest) := match rest with
        | '-' :: rest => (true, rest)
        | '+' :: rest => (false, rest)
        | rest => (false, rest)
      (readDigits rest).map fun (digits, rest) =>
        let size : Int := Decimal.digitsValue digits
        (some (if negative then -size else size), rest)
    else some (none, c :: rest)
  | [] => some (none, [])

def readNumber (cs : List Char) : Option (Number × List Char) := do
  let (negative, cs) := match cs with
    | '-' :: rest => (true, rest)
    | rest => (false, rest)
  let (whole, cs) ← readWhole cs
  let (fraction, cs) ← readFraction cs
  let (exponent, cs) ← readExponent cs
  return ({ negative, whole, fraction, exponent }, cs)

namespace Number

/-- The leading digits that fit in 64 bits, with the number of digits left over. -/
def leading (n : Nat) : List Char → Nat × Nat
  | [] => (n, 0)
  | c :: cs =>
    let m := 10 * n + (c.toNat - '0'.toNat)
    if m < Decimal.power 2 64 then leading m cs else (n, cs.length + 1)

/-- The power of ten, at most `10 ^ 308`. -/
def powerOfTen (n : Nat) : Float := Decimal.nearest 1 n

/-- `significand * 10 ^ exponent`, rounded after each of its steps: the significand, and the
multiplication or divisions by powers of ten. Nothing if it is too large. -/
def scale (significand : Nat) (exponent : Int) : Option Float :=
  let f := (UInt64.ofNat significand).toFloat
  if 0 ≤ exponent then
    if exponent ≤ 308 then
      let g := f * powerOfTen exponent.toNat
      if g.isInf then none else some g
    else if significand == 0 then some f else none
  else if -308 ≤ exponent then some (f / powerOfTen (-exponent).toNat)
  else if -616 ≤ exponent then some (f / powerOfTen 308 / powerOfTen (-exponent - 308).toNat)
  else some (f / powerOfTen 308 / powerOfTen 308 / powerOfTen 308)

/-- The value of a number: an integer if it is written as one and fits in 64 bits. Negative zero
is a float. -/
def value? (n : Number) : Option Json :=
  let whole := Decimal.digitsValue n.whole
  if n.fraction.isNone && n.exponent.isNone &&
      (if n.negative then 0 < whole && whole ≤ Decimal.power 2 63
        else whole < Decimal.power 2 64) then
    some (.int (if n.negative then -whole else whole))
  else
    let (head, dropped) := leading 0 n.whole
    let (significand, unused) := if dropped == 0 then leading head (n.fraction.getD [])
      else (head, (n.fraction.getD []).length)
    let kept := (n.fraction.getD []).length - unused
    let exponent := n.exponent.getD 0 + dropped - kept
    (scale significand exponent).map fun f => .float (if n.negative then -f else f)

end Number

/-! ### Tokens -/

def isBlank (c : Char) : Bool := c == ' ' || c == '\n' || c == '\t' || c == '\r'

/-- Reads the token that stands first. -/
def read : List Char → Option (Token × List Char)
  | '[' :: rest => some (.openArray, rest)
  | ']' :: rest => some (.closeArray, rest)
  | '{' :: rest => some (.openObject, rest)
  | '}' :: rest => some (.closeObject, rest)
  | ',' :: rest => some (.comma, rest)
  | ':' :: rest => some (.colon, rest)
  | '"' :: rest => (readString [] rest).map fun (s, rest) => (.scalar (.string s), rest)
  | 'n' :: 'u' :: 'l' :: 'l' :: rest => some (.scalar .null, rest)
  | 't' :: 'r' :: 'u' :: 'e' :: rest => some (.scalar (.bool true), rest)
  | 'f' :: 'a' :: 'l' :: 's' :: 'e' :: rest => some (.scalar (.bool false), rest)
  | cs => do
    let (n, rest) ← readNumber cs
    return (.scalar (← n.value?), rest)

/-! ### Reading shortens the text -/

theorem length_readString_lt {taken cs rest : List Char} {s : String}
    (h : readString taken cs = some (s, rest)) : rest.length < cs.length := by
  fun_induction readString taken cs <;> simp_all <;> omega

theorem length_readDigits_lt {cs digits rest : List Char}
    (h : readDigits cs = some (digits, rest)) : rest.length < cs.length := by
  unfold readDigits at h
  simp only at h
  split at h
  · simp at h
  · rename_i hne
    obtain ⟨-, rfl⟩ := Prod.mk.inj (Option.some.inj h)
    have h₁ := congrArg List.length (List.takeWhile_append_dropWhile (p := Char.isDigit) (l := cs))
    have h₂ : 0 < (cs.takeWhile Char.isDigit).length := by
      rw [List.length_pos_iff]
      simpa using hne
    rw [List.length_append] at h₁
    omega

theorem length_readWhole_lt {cs digits rest : List Char}
    (h : readWhole cs = some (digits, rest)) : rest.length < cs.length := by
  unfold readWhole at h
  split at h
  · split at h
    · simp at h
    · obtain ⟨-, rfl⟩ := Prod.mk.inj (Option.some.inj h)
      exact Nat.lt_succ_self _
  · exact length_readDigits_lt h

theorem length_readFraction_le {cs rest : List Char} {f : Option (List Char)}
    (h : readFraction cs = some (f, rest)) : rest.length ≤ cs.length := by
  unfold readFraction at h
  split at h
  · obtain ⟨⟨digits, tail⟩, hd, hp⟩ := Option.map_eq_some_iff.1 h
    obtain ⟨-, rfl⟩ := Prod.mk.inj hp
    exact Nat.le_of_lt (Nat.lt_succ_of_lt (length_readDigits_lt hd))
  · obtain ⟨-, rfl⟩ := Prod.mk.inj (Option.some.inj h)
    exact Nat.le_refl _

theorem length_readExponent_le {cs rest : List Char} {e : Option Int}
    (h : readExponent cs = some (e, rest)) : rest.length ≤ cs.length := by
  unfold readExponent at h
  split at h
  · rename_i c tail
    split at h
    · simp only at h
      obtain ⟨⟨digits, tail'⟩, hd, hp⟩ := Option.map_eq_some_iff.1 h
      obtain ⟨-, rfl⟩ := Prod.mk.inj hp
      have := length_readDigits_lt hd
      split at this <;> simp_all only [List.length_cons] <;> omega
    · obtain ⟨-, rfl⟩ := Prod.mk.inj (Option.some.inj h)
      exact Nat.le_refl _
  · obtain ⟨-, rfl⟩ := Prod.mk.inj (Option.some.inj h)
    exact Nat.le_refl _

theorem length_readNumber_lt {cs rest : List Char} {n : Number}
    (h : readNumber cs = some (n, rest)) : rest.length < cs.length := by
  unfold readNumber at h
  simp only at h
  obtain ⟨⟨whole, cs₁⟩, h₁, h⟩ := Option.bind_eq_some_iff.1 h
  obtain ⟨⟨fraction, cs₂⟩, h₂, h⟩ := Option.bind_eq_some_iff.1 h
  obtain ⟨⟨exponent, cs₃⟩, h₃, h⟩ := Option.bind_eq_some_iff.1 h
  obtain ⟨-, rfl⟩ := Prod.mk.inj (Option.some.inj h)
  have h₁ := length_readWhole_lt h₁
  have h₂ := length_readFraction_le h₂
  have h₃ := length_readExponent_le h₃
  split at h₁ <;> simp_all only [List.length_cons] <;> omega

theorem length_read_lt {cs rest : List Char} {t : Token}
    (h : read cs = some (t, rest)) : rest.length < cs.length := by
  unfold read at h
  split at h
  case h_7 =>
    obtain ⟨⟨s, tail⟩, hs, hp⟩ := Option.map_eq_some_iff.1 h
    obtain ⟨-, rfl⟩ := Prod.mk.inj hp
    exact Nat.lt_succ_of_lt (length_readString_lt hs)
  case h_11 =>
    obtain ⟨⟨n, tail⟩, hn, h⟩ := Option.bind_eq_some_iff.1 h
    obtain ⟨v, -, h⟩ := Option.bind_eq_some_iff.1 h
    obtain ⟨-, rfl⟩ := Prod.mk.inj (Option.some.inj h)
    exact length_readNumber_lt hn
  all_goals
    obtain ⟨-, rfl⟩ := Prod.mk.inj (Option.some.inj h)
    simp only [List.length_cons]
    omega

/-- The tokens of a text. -/
def ofText (cs : List Char) : Option (List Token) :=
  match hs : cs.dropWhile isBlank with
  | [] => some []
  | c :: tail =>
    match h : read (c :: tail) with
    | none => none
    | some (t, rest) =>
      have : rest.length < cs.length := by
        have h₁ := length_read_lt h
        have h₂ := (List.dropWhile_sublist isBlank (l := cs)).length_le
        rw [hs] at h₂
        omega
      (ofText rest).map (t :: ·)
termination_by cs.length

end Token
end Gazetteer.Json
