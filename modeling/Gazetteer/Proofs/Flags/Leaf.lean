import Mathlib.Algebra.Group.Nat.Defs
import Mathlib.Data.List.TakeWhile
import Gazetteer.Flags
import Gazetteer.Proofs.Result
import Gazetteer.Proofs.Unicode.Orbit

/-! What tokens and numbers stand for.

A token is the name or the letter of a flag, written in any case and with white space around it
(`Flags.ofToken_eq_ok_iff`). A number stands for the flags whose binary digits it has, if it has no
others (`Flags.ofBits_eq_ok_iff`, `Flags.exists_bits_eq_iff`), and the number of a union has the
digits of both numbers (`Flags.bits_union`). -/
namespace Gazetteer

/-! ### Case -/

/-- Whether a character is another one, a capital, in either case. -/
def IsCaseOf (c capital : Char) : Prop := c = capital ∨ c = capital.toLower

theorem toNat_toUpper (c : Char) :
    c.toUpper.toNat = if 97 ≤ c.toNat ∧ c.toNat ≤ 122 then c.toNat - 32 else c.toNat := by
  unfold Char.toUpper
  simp only [UInt32.le_iff_toNat_le]
  split
  · rename_i h
    have h : 97 ≤ c.toNat ∧ c.toNat ≤ 122 := h
    rw [if_pos h]
    show (c.val + ('A'.val - 'a'.val)).toNat = _
    rw [UInt32.toNat_add]
    show (c.toNat + 4294967264) % 4294967296 = _
    omega
  · rename_i h
    exact (if_neg h).symm

theorem toNat_toLower {c : Char} (h : 65 ≤ c.toNat ∧ c.toNat ≤ 90) :
    c.toLower.toNat = c.toNat + 32 := by
  unfold Char.toLower
  rw [dif_pos (by simp only [ge_iff_le, UInt32.le_iff_toNat_le]; exact h)]
  show (c.val + ('a'.val - 'A'.val)).toNat = _
  rw [UInt32.toNat_add]
  show (c.toNat + 32) % 4294967296 = _
  omega

theorem toNat_of_isUpper {c : Char} (h : c.isUpper) : 65 ≤ c.toNat ∧ c.toNat ≤ 90 := by
  obtain ⟨hlow, hhigh⟩ := of_decide_eq_true h
  exact ⟨UInt32.le_iff_toNat_le.mp hlow, UInt32.le_iff_toNat_le.mp hhigh⟩

theorem toUpper_eq_iff {c capital : Char} (h : capital.isUpper) :
    c.toUpper = capital ↔ IsCaseOf c capital := by
  have hcode := toNat_of_isUpper h
  unfold IsCaseOf
  rw [← Char.toNat_inj, ← Char.toNat_inj, ← Char.toNat_inj, toNat_toUpper, toNat_toLower hcode]
  split <;> omega

theorem map_toUpper_eq_iff {key capitals : List Char} (h : ∀ c ∈ capitals, c.isUpper) :
    key.map Char.toUpper = capitals ↔ List.Forall₂ IsCaseOf key capitals := by
  induction key generalizing capitals with
  | nil => simp [eq_comm]
  | cons c key ih =>
    cases capitals with
    | nil => simp
    | cons d capitals =>
      obtain ⟨hd, hcapitals⟩ := List.forall_mem_cons.mp h
      rw [List.map_cons, List.cons.injEq, List.forall₂_cons, toUpper_eq_iff hd, ih hcapitals]

theorem isSpace_eq_false {c : Char} (h : 65 ≤ c.toNat ∧ c.toNat ≤ 122) :
    Unicode.isSpace c = false := by
  have hascii : Unicode.isAscii c := decide_eq_true (by omega)
  rw [Unicode.isSpace, if_pos hascii, ← Bool.not_eq_true]
  intro hspace
  exact absurd (Unicode.toNat_lt_of_isAsciiSpace hspace) (Nat.not_lt.mpr h.1)

/-- A letter is not blank in either case. -/
theorem IsCaseOf.isSpace_eq_false {c capital : Char} (h : capital.isUpper)
    (hc : IsCaseOf c capital) : Unicode.isSpace c = false := by
  have hcode := toNat_of_isUpper h
  rcases hc with rfl | rfl
  · exact Gazetteer.isSpace_eq_false (by omega)
  · rw [Gazetteer.isSpace_eq_false]
    rw [toNat_toLower hcode]
    omega

/-! ### Tokens -/

namespace FlagName

/-- Whether a token is the name or the letter of the flag, in any case and with white space around
it. -/
def IsWritten (n : FlagName) (token : String) : Prop :=
  ∃ before key after, token.toList = before ++ key ++ after ∧
    (∀ c ∈ before ++ after, Unicode.isSpace c) ∧
    ∃ w ∈ [n.word, n.letter], List.Forall₂ IsCaseOf key w.toList

theorem mem_all (n : FlagName) : n ∈ all := by
  cases n <;> decide

/-- Names and letters are in capitals. -/
theorem isUpper_of_mem {n : FlagName} {w : String} (hw : w ∈ [n.word, n.letter]) {d : Char}
    (hd : d ∈ w.toList) : d.isUpper := by
  have hall : ∀ n ∈ all, ∀ w ∈ [n.word, n.letter], w.toList.all Char.isUpper := by decide +kernel
  exact List.all_eq_true.mp (hall n n.mem_all w hw) d hd

/-- No two flags share a name or a letter. -/
theorem eq_of_mem {m n : FlagName} {w : String} (hm : w ∈ [m.word, m.letter])
    (hn : w ∈ [n.word, n.letter]) : m = n := by
  have hall : ∀ m ∈ all, ∀ n ∈ all, ∀ w ∈ [m.word, m.letter], w ∈ [n.word, n.letter] → m = n := by
    decide +kernel
  exact hall m m.mem_all n n.mem_all w hm hn

theorem digit_injective {m n : FlagName} (h : m.digit = n.digit) : m = n := by
  have hall : ∀ m ∈ all, ∀ n ∈ all, m.digit = n.digit → m = n := by decide
  exact hall m m.mem_all n n.mem_all h

end FlagName

namespace Flags

theorem exists_trim (token : String) : ∃ before after,
    token.toList = before ++ trim token ++ after ∧ ∀ c ∈ before ++ after, Unicode.isSpace c := by
  let rest := token.toList.dropWhile Unicode.isSpace
  let before := token.toList.takeWhile Unicode.isSpace
  let after := rest.reverse.takeWhile Unicode.isSpace
  have hrest : before ++ rest = token.toList := List.takeWhile_append_dropWhile
  have hreverse : after ++ rest.reverse.dropWhile Unicode.isSpace = rest.reverse :=
    List.takeWhile_append_dropWhile
  have htrim : trim token ++ after.reverse = rest := by
    rw [trim, ← List.reverse_append, hreverse, List.reverse_reverse]
  refine ⟨before, after.reverse, ?_, fun c hc => ?_⟩
  · rw [List.append_assoc, htrim, hrest]
  · rcases List.mem_append.mp hc with hc | hc
    · exact List.mem_takeWhile_imp hc
    · exact List.mem_takeWhile_imp (List.mem_reverse.mp hc)

theorem trim_eq {token : String} {before key after : List Char}
    (htoken : token.toList = before ++ key ++ after)
    (hblank : ∀ c ∈ before ++ after, Unicode.isSpace c)
    (hkey : ∀ c ∈ key, Unicode.isSpace c = false) : trim token = key := by
  obtain ⟨hbefore, hafter⟩ := List.forall_mem_append.mp hblank
  have hafter' : ∀ c ∈ after.reverse, Unicode.isSpace c := by simpa using hafter
  simp only [trim, htoken, List.append_assoc, List.dropWhile_append_of_pos hbefore]
  cases key with
  | nil => simp [List.dropWhile_eq_nil_iff.mpr hafter]
  | cons c key =>
    have hstays : (c :: key).reverse.dropWhile Unicode.isSpace = (c :: key).reverse := by
      rw [List.dropWhile_eq_self_iff]
      intro hlength
      simp only [hkey _ (List.mem_reverse.mp (List.getElem_mem hlength)), Bool.false_eq_true,
        not_false_eq_true]
    rw [List.cons_append, List.dropWhile_cons_of_neg (by simp [hkey c]), ← List.cons_append,
      List.reverse_append, List.dropWhile_append_of_pos hafter', hstays, List.reverse_reverse]

theorem isWritten_iff {n : FlagName} {token : String} : n.IsWritten token ↔
    String.ofList ((trim token).map Char.toUpper) ∈ [n.word, n.letter] := by
  constructor
  · rintro ⟨before, key, after, htoken, hblank, w, hw, hkey⟩
    have hsolid : ∀ c ∈ key, Unicode.isSpace c = false := by
      intro c hc
      obtain ⟨d, hd, hcase⟩ := exists_mem_of_forall₂ hkey hc
      exact hcase.isSpace_eq_false (FlagName.isUpper_of_mem hw hd)
    have hupper := (map_toUpper_eq_iff fun d hd => FlagName.isUpper_of_mem hw hd).mpr hkey
    rw [trim_eq htoken hblank hsolid, hupper, String.ofList_toList]
    exact hw
  · intro hw
    obtain ⟨before, after, htoken, hblank⟩ := exists_trim token
    refine ⟨before, trim token, after, htoken, hblank, _, hw, ?_⟩
    rw [String.toList_ofList]
    refine (map_toUpper_eq_iff fun d hd => ?_).mp rfl
    exact FlagName.isUpper_of_mem hw (by rwa [String.toList_ofList])

/-- The test by which a flag is looked up. -/
theorem beq_or_beq_iff {n : FlagName} {token key : String}
    (hkey : key = String.ofList ((trim token).map Char.toUpper)) :
    (key == n.word || key == n.letter) ↔ n.IsWritten token := by
  rw [isWritten_iff, ← hkey]
  simp

theorem ofToken_eq_ok_iff {token : String} {f : Flags} :
    ofToken token = .ok f ↔ ∃ n : FlagName, n.IsWritten token ∧ f = singleton n := by
  unfold ofToken
  dsimp only
  split
  · rename_i m hm
    have htest := List.find?_some hm
    have hwritten := (beq_or_beq_iff rfl).mp htest
    rw [Except.ok.injEq, eq_comm]
    refine ⟨fun h => ⟨m, hwritten, h⟩, ?_⟩
    rintro ⟨n, hn, rfl⟩
    rw [FlagName.eq_of_mem (isWritten_iff.mp hwritten) (isWritten_iff.mp hn)]
  · rename_i hnone
    refine ⟨fun h => absurd h (by simp), ?_⟩
    rintro ⟨n, hn, -⟩
    exact absurd ((beq_or_beq_iff rfl).mpr hn) (List.find?_eq_none.mp hnone n n.mem_all)

theorem eq_of_ofToken_eq_error {token : String} {e : FlagError} (h : ofToken token = .error e) :
    e = .unknownToken token := by
  unfold ofToken at h
  dsimp only at h
  split at h
  · exact absurd h (by simp)
  · exact (Except.error.inj h).symm

/-! ### Numbers -/

variable {f g : Flags}

theorem contains_ofTest (test : FlagName → Bool) (n : FlagName) :
    (ofTest test).contains n = test n := by
  cases n <;> rfl

theorem ext_contains (h : ∀ n, f.contains n = g.contains n) : f = g := by
  obtain ⟨i, m, s, u, x, a⟩ := f
  obtain ⟨i', m', s', u', x', a'⟩ := g
  obtain rfl : i = i' := h .ignoreCase
  obtain rfl : m = m' := h .multiLine
  obtain rfl : s = s' := h .dotAll
  obtain rfl : u = u' := h .unicode
  obtain rfl : x = x' := h .verbose
  obtain rfl : a = a' := h .ascii
  rfl

/-- The numbers of the flags in a list, added up. -/
def bitsOf (f : Flags) (ns : List FlagName) : Nat :=
  ns.foldr (fun n bits => (if f.contains n then Nat.pow 2 n.digit else 0) + bits) 0

theorem bitsOf_cons (f : Flags) (n : FlagName) (ns : List FlagName) :
    bitsOf f (n :: ns) = (if f.contains n then 2 ^ n.digit else 0) + bitsOf f ns := rfl

theorem two_pow_dvd_bitsOf (f : Flags) {d : Nat} {ns : List FlagName}
    (h : ∀ n ∈ ns, d ≤ n.digit) : 2 ^ d ∣ bitsOf f ns := by
  induction ns with
  | nil => exact Nat.dvd_zero _
  | cons n ns ih =>
    obtain ⟨hn, hns⟩ := List.forall_mem_cons.mp h
    rw [bitsOf_cons]
    refine Nat.dvd_add ?_ (ih hns)
    split
    · exact Nat.pow_dvd_pow 2 hn
    · exact Nat.dvd_zero _

/-- In the sum of different powers of two no digit is carried. -/
theorem testBit_bitsOf (f : Flags) {ns : List FlagName}
    (h : ns.Pairwise fun m n => m.digit < n.digit) (i : Nat) :
    (bitsOf f ns).testBit i ↔ ∃ n ∈ ns, f.contains n ∧ n.digit = i := by
  induction ns with
  | nil => simp [bitsOf]
  | cons n ns ih =>
    obtain ⟨hn, hns⟩ := List.pairwise_cons.mp h
    rw [bitsOf_cons, List.exists_mem_cons_iff, ← ih hns]
    by_cases hf : f.contains n
    · obtain ⟨k, hk⟩ := two_pow_dvd_bitsOf f fun m hm => Nat.succ_le_of_lt (hn m hm)
      have hlt : 2 ^ n.digit < 2 ^ (n.digit + 1) := Nat.pow_lt_pow_succ (by decide)
      rw [if_pos hf, hk, Nat.add_comm, Nat.two_pow_add_eq_or_of_lt hlt, Nat.testBit_or,
        Bool.or_eq_true, Nat.testBit_two_pow, decide_eq_true_eq, or_comm]
      simp [hf]
    · simp [hf]

/-- The number of a set of flags has the binary digits of its flags. -/
theorem testBit_bits (f : Flags) (i : Nat) :
    f.bits.testBit i ↔ ∃ n : FlagName, f.contains n ∧ n.digit = i := by
  have hascending : FlagName.all.Pairwise fun m n => m.digit < n.digit := by decide
  refine (testBit_bitsOf f hascending i).trans ?_
  simp [FlagName.mem_all]

theorem testBit_bits_digit (f : Flags) (n : FlagName) : f.bits.testBit n.digit = f.contains n := by
  rw [Bool.eq_iff_iff, testBit_bits]
  constructor
  · rintro ⟨m, hm, hdigit⟩
    rwa [← FlagName.digit_injective hdigit]
  · exact fun h => ⟨n, h, rfl⟩

theorem bits_injective (h : f.bits = g.bits) : f = g :=
  ext_contains fun n => by rw [← testBit_bits_digit, h, testBit_bits_digit]

theorem bits_union (f g : Flags) : (f.union g).bits = f.bits ||| g.bits := by
  refine Nat.eq_of_testBit_eq fun i => ?_
  rw [Nat.testBit_or, Bool.eq_iff_iff, Bool.or_eq_true, testBit_bits, testBit_bits, testBit_bits,
    ← exists_or]
  refine exists_congr fun n => ?_
  rw [union, contains_ofTest, Bool.or_eq_true, or_and_right]

theorem bits_singleton (n : FlagName) : (singleton n).bits = 2 ^ n.digit := by
  cases n <;> rfl

/-- The numbers of sets of flags are those with no other binary digits. -/
theorem exists_bits_eq_iff {b : Nat} :
    (∃ f : Flags, f.bits = b) ↔ ∀ i, b.testBit i → ∃ n : FlagName, n.digit = i := by
  constructor
  · rintro ⟨f, rfl⟩ i hi
    obtain ⟨n, -, hn⟩ := (testBit_bits f i).mp hi
    exact ⟨n, hn⟩
  · intro h
    refine ⟨ofTest fun n => b.testBit n.digit, Nat.eq_of_testBit_eq fun i => ?_⟩
    rw [Bool.eq_iff_iff, testBit_bits]
    constructor
    · rintro ⟨n, hn, rfl⟩
      rwa [contains_ofTest] at hn
    · intro hi
      obtain ⟨n, rfl⟩ := h i hi
      exact ⟨n, by rwa [contains_ofTest], rfl⟩

theorem ofBits_eq_ok_iff {n : Int} : ofBits n = .ok f ↔ (f.bits : Int) = n := by
  unfold ofBits
  dsimp only
  split
  · rename_i hn
    rw [Except.ok.injEq]
    refine ⟨fun h => h ▸ hn, fun h => bits_injective (Int.ofNat_inj.mp (hn.trans h.symm))⟩
  · rename_i hn
    refine ⟨fun h => absurd h (by simp), ?_⟩
    rintro rfl
    refine absurd ?_ hn
    rw [Int.toNat_natCast]
    exact congrArg (fun f : Flags => (f.bits : Int))
      (ext_contains fun m => by rw [contains_ofTest, testBit_bits_digit])

theorem eq_of_ofBits_eq_error {n : Int} {e : FlagError} (h : ofBits n = .error e) :
    e = .unknownBits n := by
  unfold ofBits at h
  dsimp only at h
  split at h
  · exact absurd h (by simp)
  · exact (Except.error.inj h).symm

end Flags
end Gazetteer
