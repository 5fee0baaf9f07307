import Gazetteer.Json.Printer
import Gazetteer.Json.Token

/-! Tokens of printed text.

A string or an integer that is printed is read as one token, which is the same scalar
(`Json.Token.read_quote`, `Json.Token.read_int`). A number ends where it was meant to only if no
character that could continue it follows, which is asked of what stands behind. -/
namespace Gazetteer.Json

/-- The integers that are read as integers: those of 64 bits, with or without a sign. -/
def IsWord (n : Int) : Prop := -(Decimal.power 2 63 : Int) ≤ n ∧ n < (Decimal.power 2 64 : Int)

instance (n : Int) : Decidable (IsWord n) := inferInstanceAs (Decidable (_ ∧ _))

namespace Token

/-! ### Strings -/

theorem hexDigit?_hexDigit {n : Nat} (h : n < 16) : hexDigit? (Text.hexDigit n) = some n := by
  have hall : ∀ n : Fin 16, hexDigit? (Text.hexDigit n) = some n.val := by decide
  exact hall ⟨n, h⟩

/-- The escape of a control character stands for it. -/
theorem unit?_of_lt {n : Nat} (h : n < 256) :
    unit? '0' '0' (Text.hexDigit (n / 16)) (Text.hexDigit (n % 16)) = some n := by
  have hzero : hexDigit? '0' = some 0 := rfl
  have hhigh := hexDigit?_hexDigit (Nat.div_lt_of_lt_mul h : n / 16 < 16)
  have hlow := hexDigit?_hexDigit (Nat.mod_lt n (by decide) : n % 16 < 16)
  simp only [unit?, hzero, hhigh, hlow, Option.bind_eq_bind, Option.bind_some, Option.pure_def,
    Option.some.injEq]
  omega

theorem readString_escapeChar (taken : List Char) (c : Char) (cs : List Char) :
    readString taken (escapeChar c ++ cs) = readString (c :: taken) cs := by
  unfold escapeChar
  split
  case h_8 hquote hslash _ _ _ _ _ =>
    split
    · rename_i hcontrol
      have hunit := unit?_of_lt (Nat.lt_trans hcontrol (by decide))
      simp only [List.cons_append, List.nil_append, readString, hunit]
      rw [if_pos (.inl (Nat.lt_trans hcontrol (by decide))), Char.ofNat_toNat]
    · rename_i hcontrol
      rw [List.singleton_append, readString, if_neg hcontrol]
      · exact hquote
      · exact fun _ _ _ _ _ h => absurd h hslash
      · exact fun _ _ h => absurd h hslash
  all_goals rfl

theorem readString_flatMap (taken cs rest : List Char) :
    readString taken (cs.flatMap escapeChar ++ '"' :: rest) =
      some (.ofList (taken.reverse ++ cs), rest) := by
  induction cs generalizing taken with
  | nil => rw [List.flatMap_nil, List.nil_append, readString, List.append_nil]
  | cons c cs ih =>
    rw [List.flatMap_cons, List.append_assoc, readString_escapeChar, ih, List.reverse_cons,
      List.append_assoc, List.singleton_append]

theorem read_quote (s : String) (rest : List Char) :
    read (quote s ++ rest) = some (.scalar (.string s), rest) := by
  have hstring := readString_flatMap [] s.toList rest
  rw [List.reverse_nil, List.nil_append, String.ofList_toList] at hstring
  rw [quote, List.append_assoc, List.singleton_append, List.cons_append, read, hstring]
  rfl

/-! ### Numbers -/

/-- Whether a number would go on with the character. -/
def continuesNumber (c : Char) : Bool := c.isDigit || c == '.' || c == 'e' || c == 'E'

/-- No number goes on into the text. -/
def EndsNumber (cs : List Char) : Prop := ∀ c ∈ cs.head?, continuesNumber c = false

theorem digitsValue_toDigits (n : Nat) : Decimal.digitsValue (Nat.toDigits 10 n) = n :=
  Nat.ofDigitChars_toDigits (by decide) (by decide)

theorem isDigit_of_mem_toDigits {n : Nat} {c : Char} (h : c ∈ Nat.toDigits 10 n) :
    c.isDigit :=
  Nat.isDigit_of_mem_toDigits (by decide) (by decide) h

theorem exists_toDigits_eq_cons (n : Nat) :
    ∃ c cs, Nat.toDigits 10 n = c :: cs ∧ c.isDigit := by
  obtain ⟨c, cs, hcs⟩ := List.exists_cons_of_ne_nil (Nat.toDigits_ne_nil (n := n) (b := 10))
  exact ⟨c, cs, hcs, isDigit_of_mem_toDigits (hcs ▸ List.mem_cons_self)⟩

/-- A positive number is not written with a zero in front. -/
theorem head?_toDigits {n : Nat} (h : 0 < n) : (Nat.toDigits 10 n).head? ≠ some '0' := by
  induction n using Nat.strongRecOn with
  | ind n ih =>
    by_cases hsmall : n < 10
    · rw [Nat.toDigits_of_lt_base hsmall]
      have hall : ∀ n : Fin 10, 0 < n.val → [n.val.digitChar].head? ≠ some '0' := by decide
      exact hall ⟨n, hsmall⟩ h
    · have hlarge := Nat.not_lt.mp hsmall
      obtain ⟨c, cs, hcs, -⟩ := exists_toDigits_eq_cons (n / 10)
      have hhead := ih (n / 10) (Nat.div_lt_self h (by decide)) (Nat.div_pos hlarge (by decide))
      rw [Nat.toDigits_of_base_le (by decide) hlarge, hcs, List.cons_append]
      rwa [hcs] at hhead

theorem readDigits_toDigits (n : Nat) {rest : List Char}
    (hrest : ∀ c ∈ rest.head?, c.isDigit = false) :
    readDigits (Nat.toDigits 10 n ++ rest) = some (Nat.toDigits 10 n, rest) := by
  have hstop : rest.takeWhile Char.isDigit = [] ∧ rest.dropWhile Char.isDigit = rest := by
    cases rest with
    | nil => exact ⟨rfl, rfl⟩
    | cons c rest =>
      have hc : ¬ c.isDigit := by simp [hrest c rfl]
      exact ⟨List.takeWhile_cons_of_neg hc, List.dropWhile_cons_of_neg hc⟩
  have hne : (Nat.toDigits 10 n).isEmpty = false := by simp [Nat.toDigits_ne_nil]
  have hdigits := fun c => isDigit_of_mem_toDigits (n := n) (c := c)
  simp only [readDigits, List.takeWhile_append_of_pos hdigits, List.dropWhile_append_of_pos hdigits,
    hstop, List.append_nil, hne, Bool.false_eq_true, if_false]

theorem readWhole_toDigits (n : Nat) {rest : List Char}
    (hrest : ∀ c ∈ rest.head?, c.isDigit = false) :
    readWhole (Nat.toDigits 10 n ++ rest) = some (Nat.toDigits 10 n, rest) := by
  rcases Nat.eq_zero_or_pos n with rfl | hpos
  · have hnone : rest.head?.any Char.isDigit = false := by
      rw [Option.any_eq_false]
      exact fun c hc => by simp [hrest c hc]
    rw [Nat.toDigits_zero, List.singleton_append, readWhole, hnone]
    rfl
  · have hhead := head?_toDigits hpos
    have hread := readDigits_toDigits n hrest
    obtain ⟨c, cs, hcs, -⟩ := exists_toDigits_eq_cons n
    rw [hcs, List.cons_append] at hread ⊢
    rw [hcs, List.head?_cons] at hhead
    rw [readWhole, hread]
    exact fun _ hzero => hhead (congrArg List.head? hzero)

theorem readFraction_of_endsNumber {rest : List Char} (h : EndsNumber rest) :
    readFraction rest = some (none, rest) := by
  unfold readFraction
  split
  · exact absurd (h '.' rfl) (by decide)
  · rfl

theorem readExponent_of_endsNumber {rest : List Char} (h : EndsNumber rest) :
    readExponent rest = some (none, rest) := by
  unfold readExponent
  split
  · rename_i c cs
    have hc := h c rfl
    simp only [continuesNumber, Bool.or_eq_false_iff] at hc
    rw [hc.1.2, hc.2]
    rfl
  · rfl

theorem EndsNumber.isDigit_eq_false {rest : List Char} (h : EndsNumber rest) :
    ∀ c ∈ rest.head?, c.isDigit = false := by
  intro c hc
  have hcont := h c hc
  simp only [continuesNumber, Bool.or_eq_false_iff] at hcont
  exact hcont.1.1.1

/-- The parts of a number that is written as an integer. -/
def wholeNumber (negative : Bool) (n : Nat) : Number := ⟨negative, Nat.toDigits 10 n, none, none⟩

theorem readNumber_toDigits (n : Nat) {rest : List Char} (h : EndsNumber rest) :
    readNumber (Nat.toDigits 10 n ++ rest) = some (wholeNumber false n, rest) := by
  have hwhole := readWhole_toDigits n h.isDigit_eq_false
  obtain ⟨c, cs, hcs, hc⟩ := exists_toDigits_eq_cons n
  have hsign : ∀ rest', Nat.toDigits 10 n ++ rest ≠ '-' :: rest' := by
    rintro rest' hminus
    rw [hcs, List.cons_append, List.cons.injEq] at hminus
    exact absurd (hminus.1 ▸ hc) (by decide)
  unfold readNumber
  split
  rename_i hmatch
  split at hmatch
  · rename_i hminus
    exact absurd hminus (hsign _)
  · obtain ⟨rfl, rfl⟩ := Prod.mk.inj hmatch
    simp only [hwhole, readFraction_of_endsNumber h, readExponent_of_endsNumber h,
      Option.bind_eq_bind, Option.bind_some]
    rfl

theorem readNumber_neg_toDigits (n : Nat) {rest : List Char} (h : EndsNumber rest) :
    readNumber ('-' :: Nat.toDigits 10 n ++ rest) = some (wholeNumber true n, rest) := by
  have hwhole := readWhole_toDigits n h.isDigit_eq_false
  simp only [readNumber, List.cons_append, hwhole, readFraction_of_endsNumber h,
    readExponent_of_endsNumber h, Option.bind_eq_bind, Option.bind_some]
  rfl

theorem value?_wholeNumber_false {n : Nat} (h : n < Decimal.power 2 64) :
    (wholeNumber false n).value? = some (.int n) := by
  simp [wholeNumber, Number.value?, digitsValue_toDigits, h]

theorem value?_wholeNumber_true {n : Nat} (hpos : 0 < n) (h : n ≤ Decimal.power 2 63) :
    (wholeNumber true n).value? = some (.int (-n)) := by
  simp [wholeNumber, Number.value?, digitsValue_toDigits, hpos, h]

/-- Where a digit or a minus sign stands, a number is read. -/
theorem read_of_startsNumber {c : Char} (cs : List Char) (h : c.isDigit ∨ c = '-') :
    read (c :: cs) = (readNumber (c :: cs)).bind fun (n, rest) =>
      n.value?.bind fun v => some (.scalar v, rest) := by
  have hne : ∀ d : Char, d.isDigit = false → d ≠ '-' → c ≠ d := by
    rintro d hdigit hminus rfl
    exact h.elim (by simp [hdigit]) hminus
  unfold read
  split
  case h_11 => rfl
  all_goals
    rename_i hmark
    exact absurd (List.cons.inj hmark).1 (hne _ (by decide) (by decide))

theorem read_int {n : Int} (hn : IsWord n) {rest : List Char} (h : EndsNumber rest) :
    read (scalarText (.int n) ++ rest) = some (.scalar (.int n), rest) := by
  cases n with
  | ofNat n =>
    have htext : scalarText (.int (.ofNat n)) = Nat.toDigits 10 n := Nat.toList_repr
    have hvalue := value?_wholeNumber_false (Int.ofNat_lt.mp hn.2)
    have hread := readNumber_toDigits n h
    obtain ⟨c, cs, hcs, hc⟩ := exists_toDigits_eq_cons n
    rw [htext]
    rw [hcs, List.cons_append] at hread ⊢
    rw [read_of_startsNumber _ (.inl hc), hread]
    exact congrArg (Option.bind · _) hvalue
  | negSucc n =>
    have htext : scalarText (.int (.negSucc n)) = '-' :: Nat.toDigits 10 (n + 1) := by
      show (toString "-" ++ toString (n + 1)).toList = _
      rw [String.toList_append, Nat.toString_eq_repr, Nat.toList_repr]
      rfl
    have hsmall : n + 1 ≤ Decimal.power 2 63 := by
      have := hn.1
      omega
    have hvalue := value?_wholeNumber_true (Nat.succ_pos n) hsmall
    have hread := readNumber_neg_toDigits (n + 1) h
    rw [htext]
    rw [List.cons_append] at hread ⊢
    rw [read_of_startsNumber _ (.inr rfl), hread]
    exact congrArg (Option.bind · _) hvalue

/-! ### Tokens -/

/-- The equation of the reader without what shows that it ends. -/
theorem ofText_eq (cs : List Char) :
    ofText cs = match cs.dropWhile isBlank with
      | [] => some []
      | c :: tail => (read (c :: tail)).bind fun (t, rest) => (ofText rest).map (t :: ·) := by
  rw [ofText.eq_def]
  split
  · rename_i hnil
    rw [hnil]
  · rename_i c tail hcons
    split
    · rename_i hread
      simp only [hcons, hread, Option.bind_none]
    · rename_i hread
      simp only [hcons, hread, Option.bind_some]

theorem ofText_nil : ofText [] = some [] := ofText_eq []

theorem ofText_append_of_isBlank {blanks : List Char} (cs : List Char)
    (h : ∀ c ∈ blanks, isBlank c) : ofText (blanks ++ cs) = ofText cs := by
  rw [ofText_eq, List.dropWhile_append_of_pos h, ← ofText_eq]

/-- No token starts with white space. -/
theorem read_of_isBlank {c : Char} (cs : List Char) (h : isBlank c) : read (c :: cs) = none := by
  simp only [isBlank, Bool.or_eq_true, beq_iff_eq] at h
  rcases h with ((rfl | rfl) | rfl) | rfl <;>
    rfl

theorem ofText_of_read {cs rest : List Char} {t : Token} (h : read cs = some (t, rest)) :
    ofText cs = (ofText rest).map (t :: ·) := by
  cases cs with
  | nil =>
    have hnone : read [] = none := rfl
    exact absurd (hnone.symm.trans h) (by simp)
  | cons c cs =>
    have hblank : ¬ isBlank c := fun hc => absurd (read_of_isBlank cs hc ▸ h) (by simp)
    rw [ofText_eq, List.dropWhile_cons_of_neg hblank]
    simp only [h, Option.bind_some]

section
variable (cs : List Char)

@[simp] theorem ofText_openArray : ofText ('[' :: cs) = (ofText cs).map (.openArray :: ·) :=
  ofText_of_read rfl

@[simp] theorem ofText_closeArray : ofText (']' :: cs) = (ofText cs).map (.closeArray :: ·) :=
  ofText_of_read rfl

@[simp] theorem ofText_openObject : ofText ('{' :: cs) = (ofText cs).map (.openObject :: ·) :=
  ofText_of_read rfl

@[simp] theorem ofText_closeObject : ofText ('}' :: cs) = (ofText cs).map (.closeObject :: ·) :=
  ofText_of_read rfl

@[simp] theorem ofText_comma : ofText (',' :: cs) = (ofText cs).map (.comma :: ·) :=
  ofText_of_read rfl

@[simp] theorem ofText_colon : ofText (':' :: cs) = (ofText cs).map (.colon :: ·) :=
  ofText_of_read rfl

@[simp] theorem ofText_quote (s : String) :
    ofText (quote s ++ cs) = (ofText cs).map (.scalar (.string s) :: ·) :=
  ofText_of_read (read_quote s cs)

@[simp] theorem ofText_space : ofText (' ' :: cs) = ofText cs :=
  ofText_append_of_isBlank cs (List.forall_mem_singleton.mpr rfl)

@[simp] theorem ofText_newline (depth : Nat) : ofText (newline depth ++ cs) = ofText cs := by
  refine ofText_append_of_isBlank cs (List.forall_mem_cons.mpr ⟨rfl, fun c hc => ?_⟩)
  rw [List.eq_of_mem_replicate hc]
  rfl

end

end Token
end Gazetteer.Json
