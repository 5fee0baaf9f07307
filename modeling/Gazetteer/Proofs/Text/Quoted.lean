import Gazetteer.Proofs.Json.Token
import Gazetteer.Text.Quoted

/-! Quoted texts.

The escapes of a quoted text are undone character by character (`Text.takeChar_quotedChar`), and a
quote that is not escaped ends it. So a quoted text says which text it quotes and where it ends,
whatever stands behind it (`Text.quoted_append_inj`), and it stays on its line
(`Text.newline_notMem_quoted`). -/
namespace Gazetteer.Text

/-! ### Codes -/

/-- The number that hexadecimal digits stand for. -/
def hexValue (digits : List Char) : Nat :=
  digits.foldl (fun n d => 16 * n + (Json.Token.hexDigit? d).getD 0) 0

theorem hexValue_hexDigits (n : Nat) : hexValue (hexDigits n) = n := by
  fun_induction hexDigits n with
  | case1 n h => simp [hexValue, Json.Token.hexDigit?_hexDigit h]
  | case2 n _ ih =>
    have hlast := Json.Token.hexDigit?_hexDigit (Nat.mod_lt n (by decide) : n % 16 < 16)
    unfold hexValue at ih ⊢
    rw [List.foldl_append, ih, List.foldl_cons, List.foldl_nil, hlast, Option.getD_some]
    exact Nat.div_add_mod n 16

theorem notMem_hexDigits {c : Char} (hc : Json.Token.hexDigit? c = none) (n : Nat) :
    c ∉ hexDigits n := by
  have hdigit : ∀ k < 16, c ≠ hexDigit k := by
    rintro k hk rfl
    rw [Json.Token.hexDigit?_hexDigit hk] at hc
    exact absurd hc (by simp)
  fun_induction hexDigits n with
  | case1 n h => simpa using hdigit n h
  | case2 n _ ih =>
    rw [List.mem_append, List.mem_singleton]
    exact not_or.mpr ⟨ih, hdigit _ (Nat.mod_lt n (by decide))⟩

/-! ### Characters -/

/-- Takes the first character of a quoted text; at the quote that ends it there is none. -/
def takeChar : List Char → Option (Char × List Char)
  | '"' :: _ => none
  | '\\' :: '0' :: cs => some ('\x00', cs)
  | '\\' :: 't' :: cs => some ('\t', cs)
  | '\\' :: 'n' :: cs => some ('\n', cs)
  | '\\' :: 'r' :: cs => some ('\r', cs)
  | '\\' :: 'u' :: '{' :: cs =>
    some (.ofNat (hexValue (cs.takeWhile (· != '}'))), (cs.dropWhile (· != '}')).tail)
  | '\\' :: c :: cs => some (c, cs)
  | c :: cs => some (c, cs)
  | [] => none

theorem takeChar_of_ne {c : Char} (hquote : c ≠ '"') (hslash : c ≠ '\\') (cs : List Char) :
    takeChar (c :: cs) = some (c, cs) := by
  rw [takeChar]
  case x_1 => exact hquote
  all_goals simp [hslash]

theorem takeChar_quotedChar (c : Char) (tail : List Char) :
    takeChar (quotedChar c ++ tail) = some (c, tail) := by
  unfold quotedChar
  split
  case h_7 hquote hslash =>
    split
    · have hbrace : ∀ d ∈ hexDigits c.toNat, (d != '}') = true := by
        intro d hd
        rw [bne_iff_ne]
        rintro rfl
        exact notMem_hexDigits (by decide) _ hd
      have hcode : (hexDigits c.toNat ++ '}' :: tail).takeWhile (· != '}') = hexDigits c.toNat := by
        rw [List.takeWhile_append_of_pos hbrace]
        simp
      have htail : (hexDigits c.toNat ++ '}' :: tail).dropWhile (· != '}') = '}' :: tail := by
        rw [List.dropWhile_append_of_pos hbrace]
        simp
      simp only [List.cons_append, List.nil_append, List.append_assoc, takeChar, hcode, htail,
        hexValue_hexDigits, Char.ofNat_toNat, List.tail_cons]
    · rw [List.singleton_append, takeChar_of_ne hquote hslash]
  all_goals rfl

theorem newline_notMem_quotedChar (c : Char) : '\n' ∉ quotedChar c := by
  unfold quotedChar
  split
  case h_7 hnewline _ _ _ =>
    split
    · have hdigits := notMem_hexDigits (c := '\n') (by decide) c.toNat
      simp [hdigits]
    · simpa using Ne.symm hnewline
  all_goals decide

/-! ### Texts -/

theorem flatMap_quotedChar_inj {s t xs ys : List Char}
    (h : s.flatMap quotedChar ++ '"' :: xs = t.flatMap quotedChar ++ '"' :: ys) :
    s = t ∧ xs = ys := by
  induction s generalizing t with
  | nil =>
    cases t with
    | nil => exact ⟨rfl, (List.cons.inj h).2⟩
    | cons d t =>
      have htake := congrArg takeChar h
      rw [List.flatMap_cons, List.append_assoc, takeChar_quotedChar] at htake
      exact absurd htake (by simp [takeChar])
  | cons c s ih =>
    have htake := congrArg takeChar h
    rw [List.flatMap_cons, List.append_assoc, takeChar_quotedChar] at htake
    cases t with
    | nil => exact absurd htake (by simp [takeChar])
    | cons d t =>
      rw [List.flatMap_cons, List.append_assoc, takeChar_quotedChar] at htake
      obtain ⟨rfl, hrest⟩ := Prod.mk.inj (Option.some.inj htake)
      obtain ⟨rfl, htail⟩ := ih hrest
      exact ⟨rfl, htail⟩

theorem toList_quoted (s : String) :
    (quoted s).toList = '"' :: (s.toList.flatMap quotedChar ++ ['"']) := by
  rw [quoted, String.toList_ofList, List.cons_append]

/-- A quoted text ends where its last quote stands and tells the text that it quotes. -/
theorem quoted_append_inj {s t : String} {xs ys : List Char}
    (h : (quoted s).toList ++ xs = (quoted t).toList ++ ys) : s = t ∧ xs = ys := by
  rw [toList_quoted, toList_quoted, List.cons_append, List.cons_append, List.append_assoc,
    List.append_assoc] at h
  obtain ⟨htext, hrest⟩ := flatMap_quotedChar_inj (List.cons.inj h).2
  exact ⟨String.toList_inj.mp htext, hrest⟩

theorem newline_notMem_quoted (s : String) : '\n' ∉ (quoted s).toList := by
  rw [toList_quoted]
  simp [newline_notMem_quotedChar]

end Gazetteer.Text
