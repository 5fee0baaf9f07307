import Gazetteer.Proofs.Flags.Leaf
import Gazetteer.Proofs.Vocabulary.Decode

/-! The flags of a directive.

A directive is a tree of tokens and numbers. Whatever its shape, it is resolved as the list of its
leaves from left to right (`Flags.ofDirective_eq`): to the union of what they stand for, or with the
error of the first that stands for nothing (`Flags.resolvesLeaves`). -/
namespace Gazetteer

namespace Directive

/-- A part of a directive that has no parts itself. -/
inductive Leaf
  | token (token : String)
  | bits (bits : Int)
  deriving Repr, DecidableEq

mutual
/-- The leaves of a directive from left to right. -/
def leaves : Directive → List Leaf
  | .token t => [.token t]
  | .tokens ts => ts.map .token
  | .mixed items => leavesOf items
  | .bits z => [.bits z]

def leavesOf : List Directive → List Leaf
  | [] => []
  | item :: items => item.leaves ++ leavesOf items
end

namespace Leaf

/-- The number a leaf stands for: that of the flag a token names, or the number that is written if
it is not negative and each of its binary digits is that of a flag. -/
inductive StandsFor : Leaf → Nat → Prop
  | token {t : String} {n : FlagName} (h : n.IsWritten t) : StandsFor (.token t) (2 ^ n.digit)
  | bits {b : Nat} (h : ∀ i, b.testBit i → ∃ n : FlagName, n.digit = i) : StandsFor (.bits b) b

/-- The error of a leaf that stands for nothing. -/
def error : Leaf → FlagError
  | .token t => .unknownToken t
  | .bits z => .unknownBits z

def flags : Leaf → Except FlagError Flags
  | .token t => Flags.ofToken t
  | .bits z => Flags.ofBits z

theorem standsFor_iff {l : Leaf} {b : Nat} :
    l.StandsFor b ↔ ∃ f : Flags, l.flags = .ok f ∧ f.bits = b := by
  constructor
  · intro h
    cases h with
    | @token t n h =>
      refine ⟨.singleton n, ?_, Flags.bits_singleton n⟩
      rw [flags]
      exact Flags.ofToken_eq_ok_iff.mpr ⟨n, h, rfl⟩
    | bits h =>
      obtain ⟨f, rfl⟩ := Flags.exists_bits_eq_iff.mpr h
      refine ⟨f, ?_, rfl⟩
      rw [flags, Flags.ofBits_eq_ok_iff]
  · rintro ⟨f, hf, rfl⟩
    cases l with
    | token t =>
      rw [flags] at hf
      obtain ⟨n, hn, rfl⟩ := Flags.ofToken_eq_ok_iff.mp hf
      rw [Flags.bits_singleton]
      exact .token hn
    | bits z =>
      rw [flags] at hf
      obtain rfl := Flags.ofBits_eq_ok_iff.mp hf
      exact .bits (Flags.exists_bits_eq_iff.mp ⟨f, rfl⟩)

theorem exists_standsFor_iff {l : Leaf} : (∃ b, l.StandsFor b) ↔ ∃ f, l.flags = .ok f := by
  simp [standsFor_iff]

theorem flags_eq_error_iff {l : Leaf} {e : FlagError} :
    l.flags = .error e ↔ (∀ b, ¬ l.StandsFor b) ∧ e = l.error := by
  have herror : ∀ e', l.flags = .error e' → e' = l.error := by
    intro e' h
    cases l with
    | token t => exact Flags.eq_of_ofToken_eq_error h
    | bits z => exact Flags.eq_of_ofBits_eq_error h
  rw [← not_exists, exists_standsFor_iff]
  cases hl : l.flags with
  | ok f => simp
  | error e' =>
    obtain rfl := herror e' hl
    simp [eq_comm]

end Leaf

end Directive

namespace Flags
open Directive

/-! ### Unions -/

def unionAll (fs : List Flags) : Flags := fs.foldr union none

theorem bits_unionAll (fs : List Flags) :
    (unionAll fs).bits = (fs.map bits).foldr (· ||| ·) 0 := by
  induction fs with
  | nil => rfl
  | cons f fs ih => exact (bits_union f (unionAll fs)).trans (congrArg _ ih)

theorem contains_unionAll {fs : List Flags} {n : FlagName} :
    (unionAll fs).contains n ↔ ∃ f ∈ fs, f.contains n := by
  induction fs with
  | nil =>
    have hnone : none.contains n = false := by cases n <;> rfl
    simp [unionAll, hnone]
  | cons f fs ih =>
    have hcons : (unionAll (f :: fs)).contains n = (f.contains n || (unionAll fs).contains n) :=
      contains_ofTest (fun m => f.contains m || (unionAll fs).contains m) n
    rw [hcons, Bool.or_eq_true, ih, List.exists_mem_cons_iff]

theorem unionAll_append (fs gs : List Flags) :
    unionAll (fs ++ gs) = (unionAll fs).union (unionAll gs) := by
  refine ext_contains fun n => ?_
  rw [union, contains_ofTest, Bool.eq_iff_iff, Bool.or_eq_true]
  simp only [contains_unionAll, List.mem_append, or_and_right, exists_or]

/-- Two lists of sets are united after each other. -/
theorem bind_union (xs ys : List Leaf) :
    (do
      let f ← (xs.mapM Leaf.flags).map unionAll
      let g ← (ys.mapM Leaf.flags).map unionAll
      return f.union g) = ((xs ++ ys).mapM Leaf.flags).map unionAll := by
  rw [List.mapM_append]
  cases xs.mapM Leaf.flags with
  | error e => rfl
  | ok fs =>
    cases ys.mapM Leaf.flags with
    | error e => rfl
    | ok gs => exact congrArg Except.ok (unionAll_append fs gs).symm

/-! ### Directives -/

theorem union_none (f : Flags) : f.union none = f := by
  refine ext_contains fun n => ?_
  cases n <;> exact Bool.or_false _

theorem map_leaf_flags (l : Leaf) : ([l].mapM Leaf.flags).map unionAll = l.flags := by
  rw [List.mapM_cons]
  cases l.flags with
  | error e => rfl
  | ok f => exact congrArg Except.ok (union_none f)

theorem ofTokens_eq (ts : List String) : ofTokens ts = ofDirectives (ts.map .token) := by
  induction ts with
  | nil => rfl
  | cons t ts ih =>
    rw [ofTokens, ih]
    rfl

theorem ofDirectives_eq_mapM (ds : List Directive) :
    ofDirectives ds = (ds.mapM ofDirective).map unionAll := by
  induction ds with
  | nil => rfl
  | cons d ds ih =>
    rw [List.mapM_cons, ofDirectives, ih]
    cases ofDirective d with
    | error e => rfl
    | ok f => cases ds.mapM ofDirective <;> rfl

mutual
theorem ofDirective_eq (d : Directive) :
    ofDirective d = (d.leaves.mapM Leaf.flags).map unionAll := by
  cases d with
  | token t => exact (map_leaf_flags (.token t)).symm
  | tokens ts =>
    have htokens :
        (ts.map Directive.token).mapM ofDirective = (ts.map Leaf.token).mapM Leaf.flags := by
      rw [List.mapM_map, List.mapM_map]
      rfl
    rw [leaves, ← htokens, ← ofDirectives_eq_mapM, ← ofTokens_eq]
    rfl
  | mixed items => exact ofDirectives_eq items
  | bits z => exact (map_leaf_flags (.bits z)).symm

theorem ofDirectives_eq (ds : List Directive) :
    ofDirectives ds = ((leavesOf ds).mapM Leaf.flags).map unionAll := by
  cases ds with
  | nil => rfl
  | cons d ds =>
    rw [leavesOf, ← bind_union, ← ofDirective_eq d, ← ofDirectives_eq ds]
    rfl
end

/-! ### Lists of a configuration -/

theorem flagsOfTree_of_isFlagOf {v : Tree} {d : Directive} (group : String)
    (h : Vocabulary.IsFlagOf v d) : Vocabulary.flagsOfTree group v = .ok d := by
  cases h with
  | token t => rfl
  | bits h => exact if_pos (Vocabulary.isSigned64_iff.mpr h)

/-- A list stands for the directives of its items. -/
theorem exists_items {group : String} {items : List Tree} {d : Directive}
    (h : Vocabulary.flagsOfTree group (.list items) = .ok d) : ∃ ds,
      List.Forall₂ Vocabulary.IsFlagOf items ds ∧ ofDirective d = ofDirectives ds := by
  have hdirects := (Vocabulary.reports_flagsOfTree group (.list items)).of_eq_ok h
  generalize hv : Tree.list items = v at hdirects
  cases hdirects with
  | flag hflag => subst hv; cases hflag
  | tokens names =>
    obtain rfl := Tree.list.inj hv
    refine ⟨names.map .token, ?_, ofTokens_eq names⟩
    rw [List.forall₂_map_left_iff, List.forall₂_map_right_iff, List.forall₂_same]
    exact fun name _ => .token name
  | mixed hitems _ =>
    obtain rfl := Tree.list.inj hv
    exact ⟨_, hitems, rfl⟩

/-! ### What directives stand for -/

/-- What comes of a directive. -/
structure ResolvesLeaves (d : Directive) : Prop where
  /-- It resolves if each leaf stands for something. -/
  accepts : (∃ f, resolve (some d) = .ok f) ↔ ∀ l ∈ d.leaves, ∃ b, l.StandsFor b
  /-- The number of the result has each digit that a leaf has. -/
  unites : ∀ f, resolve (some d) = .ok f ↔
    ∃ bs, List.Forall₂ Leaf.StandsFor d.leaves bs ∧ f.bits = bs.foldr (· ||| ·) 0
  empty : d.leaves = [] → resolve (some d) = .ok none
  /-- The first leaf that stands for nothing is reported. -/
  reports : ∀ e, resolve (some d) = .error e ↔ ∃ before l after,
    d.leaves = before ++ l :: after ∧ (∀ l' ∈ before, ∃ b, l'.StandsFor b) ∧
      (∀ b, ¬ l.StandsFor b) ∧ e = l.error
  /-- Nesting does not count. -/
  nesting : ∀ d' : Directive, d'.leaves = d.leaves → resolve (some d') = resolve (some d)
  tokens : ∀ ts, d = .tokens ts → resolve (some (.mixed (ts.map .token))) = resolve (some d)
  /-- Neither do the order of the leaves and repetition, if all of them stand for something. -/
  order : ∀ d' : Directive, (∀ l, l ∈ d'.leaves ↔ l ∈ d.leaves) →
    ∀ f, resolve (some d) = .ok f → resolve (some d') = .ok f
  /-- A result can be stored as its number. -/
  stores : ∀ f, resolve (some d) = .ok f → resolve (some (.bits f.bits)) = .ok f
  /-- A list of a configuration resolves to the union of what its items resolve to. -/
  items : ∀ group items, Vocabulary.flagsOfTree group (.list items) = .ok d → ∃ ds,
    List.Forall₂ (fun v d' => Vocabulary.flagsOfTree group v = .ok d') items ds ∧
      resolve (some d) = (ds.mapM fun d' => resolve (some d')).map unionAll

theorem resolve_some (d : Directive) :
    resolve (some d) = (d.leaves.mapM Leaf.flags).map unionAll := ofDirective_eq d

theorem resolve_eq_ok_iff {d : Directive} {f : Flags} : resolve (some d) = .ok f ↔
    ∃ fs, List.Forall₂ (fun l g => l.flags = .ok g) d.leaves fs ∧ unionAll fs = f := by
  rw [resolve_some, map_eq_ok_iff]
  refine exists_congr fun fs => and_congr_left' ?_
  exact ⟨forall₂_of_mapM_eq_ok, mapM_eq_ok_of_forall₂⟩

theorem exists_resolve_iff {d : Directive} :
    (∃ f, resolve (some d) = .ok f) ↔ ∀ l ∈ d.leaves, ∃ f, l.flags = .ok f := by
  rw [resolve_some, ← exists_mapM_eq_ok_iff]
  simp [map_eq_ok_iff]

/-- A flag is in the result if it is in what a leaf stands for. -/
theorem contains_iff_of_resolve {d : Directive} {f : Flags} (h : resolve (some d) = .ok f)
    (n : FlagName) : f.contains n ↔ ∃ l ∈ d.leaves, ∃ g, l.flags = .ok g ∧ g.contains n := by
  obtain ⟨fs, hfs, rfl⟩ := resolve_eq_ok_iff.mp h
  rw [contains_unionAll]
  constructor
  · rintro ⟨g, hg, hn⟩
    obtain ⟨l, hl, hlg⟩ := exists_mem_of_forall₂ hfs.flip hg
    exact ⟨l, hl, g, hlg, hn⟩
  · rintro ⟨l, hl, g, hlg, hn⟩
    obtain ⟨g', hg', hlg'⟩ := exists_mem_of_forall₂ hfs hl
    obtain rfl := Except.ok.inj (hlg.symm.trans hlg')
    exact ⟨g, hg', hn⟩

theorem resolvesLeaves (d : Directive) : ResolvesLeaves d where
  accepts := by simp only [exists_resolve_iff, Leaf.exists_standsFor_iff]
  unites f := by
    rw [resolve_eq_ok_iff]
    constructor
    · rintro ⟨fs, hfs, rfl⟩
      refine ⟨fs.map bits, List.forall₂_map_right_iff.mpr ?_, bits_unionAll fs⟩
      exact hfs.imp fun l g hg => Leaf.standsFor_iff.mpr ⟨g, hg, rfl⟩
    · rintro ⟨bs, hbs, hf⟩
      obtain ⟨fs, hfs, rfl⟩ := exists_map_of_forall₂ (hbs.imp fun _ _ => Leaf.standsFor_iff.mp)
      exact ⟨fs, hfs, bits_injective ((bits_unionAll fs).trans hf.symm)⟩
  empty h := by
    rw [resolve_some, h]
    rfl
  reports e := by
    rw [resolve_some, map_eq_error_iff, mapM_eq_error_iff]
    simp only [Leaf.exists_standsFor_iff, Leaf.flags_eq_error_iff]
  nesting d' h := by rw [resolve_some, h, resolve_some]
  tokens ts h := by
    rw [h]
    exact (ofTokens_eq ts).symm
  order d' hleaves f hf := by
    have hall := exists_resolve_iff.mp ⟨f, hf⟩
    obtain ⟨f', hf'⟩ := exists_resolve_iff.mpr fun l hl => hall l ((hleaves l).mp hl)
    have hsame : f' = f := ext_contains fun n => by
      rw [Bool.eq_iff_iff, contains_iff_of_resolve hf', contains_iff_of_resolve hf]
      simp only [hleaves]
    rw [hf', hsame]
  stores f _ := ofBits_eq_ok_iff.mpr rfl
  items group items h := by
    obtain ⟨ds, hds, heq⟩ := exists_items h
    refine ⟨ds, hds.imp fun _ _ => flagsOfTree_of_isFlagOf group, ?_⟩
    exact heq.trans (ofDirectives_eq_mapM ds)

/-- A list of nothing stands for no flags, and a name may be repeated. -/
example :
    resolve (some (.mixed [.token " i", .mixed [], .mixed [.bits 10, .tokens ["IgnoreCase"]]])) =
      .ok { none with ignoreCase := true, multiLine := true } := by
  decide +kernel

end Flags
end Gazetteer
