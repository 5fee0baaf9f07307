/-! Sets of code points as ascending runs.

Properties of characters are long lists of code points with much regularity: blocks, and
stretches where every second code point belongs. A set is kept as the runs of such a list
and read from a compact text, so a table of several hundred runs is a few lines long.
Membership is a bisection. -/
namespace Gazetteer.Unicode

/-- The code points `first, first + step, …, last`. -/
structure Run where
  first : Nat
  last : Nat
  step : Nat
  deriving Repr, DecidableEq

namespace Run

def contains (r : Run) (n : Nat) : Bool :=
  r.first ≤ n && n ≤ r.last && (n - r.first) % r.step == 0

end Run

/-- Runs in ascending order that do not overlap. -/
structure CodeSet where
  runs : Array Run
  deriving Repr, DecidableEq

namespace CodeSet

/-! ### Membership -/

/-- The last index of the window `[lo, hi)` whose run starts at or before `n`. -/
def locate (runs : Array Run) (n : Nat) (lo hi : Nat) (found : Option Run)
    (bound : hi ≤ runs.size) : Option Run :=
  if h : lo < hi then
    let middle := lo + (hi - lo) / 2
    have : middle < runs.size := by omega
    if runs[middle].first ≤ n then locate runs n (middle + 1) hi (some runs[middle]) bound
    else locate runs n lo middle found (by omega)
  else found
termination_by hi - lo

def contains (s : CodeSet) (n : Nat) : Bool :=
  match locate s.runs n 0 s.runs.size none (Nat.le_refl _) with
  | some run => run.contains n
  | none => false

/-- Among runs that all start behind `n` the bisection finds nothing. -/
theorem locate_eq {runs : Array Run} {n : Nat} (h : ∀ r ∈ runs, n < r.first) {lo hi : Nat}
    {found : Option Run} {bound : hi ≤ runs.size} : locate runs n lo hi found bound = found := by
  fun_induction locate runs n lo hi found bound with
  | case1 lo hi found bound _ middle hlt hfirst _ =>
    exact absurd hfirst (Nat.not_le.mpr (h _ (Array.getElem_mem hlt)))
  | case2 lo hi found bound _ middle _ _ ih => exact ih
  | case3 => rfl

theorem contains_eq_false {s : CodeSet} {n : Nat} (h : ∀ r ∈ s.runs, n < r.first) :
    s.contains n = false := by
  unfold contains
  rw [locate_eq h]

/-! ### Reading the compact text

A run is written `first`, `first-last` or `first-last/2` in hexadecimal, and runs are
separated by blanks. -/

/-- The value of a hexadecimal digit; other characters count as zero. -/
def digit (c : Char) : Nat :=
  if c.isDigit then c.toNat - '0'.toNat
  else if 'A' ≤ c ∧ c ≤ 'F' then c.toNat - 'A'.toNat + 10
  else 0

def number (cs : List Char) : Nat :=
  cs.foldl (fun n c => 16 * n + digit c) 0

/-- Reads one run. -/
def run (word : List Char) : Run :=
  let (span, step) := (word.takeWhile (· != '/'), word.dropWhile (· != '/'))
  let (first, last) := (span.takeWhile (· != '-'), span.dropWhile (· != '-'))
  { first := number first
    last := if last.isEmpty then number first else number (last.drop 1)
    step := if step.isEmpty then 1 else number (step.drop 1) }

/-- The words of a line, separated by blanks. -/
def words (line : List Char) : List (List Char) :=
  let close (done : List (List Char)) (word : List Char) :=
    if word.isEmpty then done else word.reverse :: done
  let (done, word) := line.foldl
    (fun (done, word) c => if c == ' ' then (close done word, []) else (done, c :: word))
    (([], []) : List (List Char) × List Char)
  (close done word).reverse

/-- Reads a table from its lines. -/
def ofLines (lines : List String) : CodeSet :=
  ⟨(lines.flatMap fun line => (words line.toList).map run).toArray⟩

end CodeSet
end Gazetteer.Unicode
