import Gazetteer.Discovery
import Gazetteer.Proofs.Discovery.Chain

/-! The nearest configuration.

The search looks at the directories of a chain one by one. It stops at the first that holds a
configuration, which it finds, or that is the root of a repository; a configuration in that root
still counts (`Discovery.findsNearest`). -/
namespace Gazetteer.Discovery

variable {files : Files Id} {directory name path start : String}

/-- Whether something of the name is in the directory. -/
def holds (files : Files Id) (directory name : String) : Bool :=
  (files.isPresent (Path.join directory name)).run

/-! ### One directory -/

/-- The directory holds none of the files. -/
def Lacks (files : Files Id) (directory : String) (names : List String) : Prop :=
  ∀ name ∈ names, holds files directory name = false

/-- The file is the first of the named files that is in the directory. -/
def IsFirstIn (files : Files Id) (directory name : String) (names : List String) : Prop :=
  ∃ earlier later, names = earlier ++ name :: later ∧ Lacks files directory earlier ∧
    holds files directory name = true

theorem findIn_cons (files : Files Id) (directory name : String) (names : List String) :
    (findIn files directory (name :: names)).run =
      if holds files directory name then some (Path.join directory name)
      else (findIn files directory names).run := by
  show (if holds files directory name then _ else _ : Id _) = _
  split <;> rfl

theorem findIn_eq_none_iff {names : List String} :
    (findIn files directory names).run = none ↔ Lacks files directory names := by
  unfold Lacks
  induction names with
  | nil => exact ⟨fun _ name hname => absurd hname List.not_mem_nil, fun _ => rfl⟩
  | cons name names ih =>
    rw [findIn_cons, List.forall_mem_cons, ← ih]
    cases holds files directory name with
    | true => simp
    | false => simp

theorem findIn_eq_some_iff {names : List String} :
    (findIn files directory names).run = some path ↔
      ∃ name, IsFirstIn files directory name names ∧ path = Path.join directory name := by
  induction names with
  | nil =>
    refine ⟨fun h => absurd h nofun, ?_⟩
    rintro ⟨name, ⟨earlier, later, h, -⟩, -⟩
    exact absurd h (by simp)
  | cons name names ih =>
    rw [findIn_cons]
    cases hname : holds files directory name with
    | true =>
      rw [if_pos rfl]
      constructor
      · intro h
        exact ⟨name, ⟨[], names, rfl, nofun, hname⟩, (Option.some.inj h).symm⟩
      · rintro ⟨name', ⟨earlier, later, hnames, hlacks, -⟩, rfl⟩
        cases earlier with
        | nil => rw [(List.cons.inj hnames).1]
        | cons name'' earlier =>
          obtain ⟨rfl, -⟩ := List.cons.inj hnames
          exact absurd (hname.symm.trans (hlacks name List.mem_cons_self)) (by simp)
    | false =>
      rw [if_neg (by simp), ih]
      constructor
      · rintro ⟨name', ⟨earlier, later, rfl, hlacks, hname'⟩, rfl⟩
        exact ⟨name', ⟨name :: earlier, later, rfl, List.forall_mem_cons.mpr ⟨hname, hlacks⟩,
          hname'⟩, rfl⟩
      · rintro ⟨name', ⟨earlier, later, hnames, hlacks, hname'⟩, rfl⟩
        cases earlier with
        | nil =>
          obtain ⟨rfl, -⟩ := List.cons.inj hnames
          exact absurd (hname.symm.trans hname') (by simp)
        | cons name'' earlier =>
          obtain ⟨rfl, rfl⟩ := List.cons.inj hnames
          exact ⟨name', ⟨earlier, later, rfl, (List.forall_mem_cons.mp hlacks).2, hname'⟩, rfl⟩

/-! ### All directories -/

/-- The search goes on behind the directory: it holds no configuration and is not the root of a
repository. -/
def IsPassed (files : Files Id) (directory : String) : Prop :=
  Lacks files directory names ∧ holds files directory rootMark = false

/-- The file is the first of the configurations in the directory, and the search passes all
directories before it. -/
def IsNearestOf (files : Files Id) (directories : List String) (directory name : String) : Prop :=
  IsFirstIn files directory name names ∧
    ∃ inner outer, directories = inner ++ directory :: outer ∧ ∀ d ∈ inner, IsPassed files d

theorem findAlong_cons (files : Files Id) (directory : String) (outer : List String) :
    (findAlong files (directory :: outer)).run =
      (findIn files directory names).run.or
        (if holds files directory rootMark then none else (findAlong files outer).run) := by
  cases hfound : (findIn files directory names).run with
  | some path =>
    have hfound : findIn files directory names = pure (some path) := hfound
    rw [findAlong, hfound]
    rfl
  | none =>
    have hfound : findIn files directory names = pure none := hfound
    rw [findAlong, hfound, Option.none_or]
    show (if holds files directory rootMark then _ else _ : Id _) = _
    split <;> rfl

theorem findAlong_eq_some_iff {directories : List String} :
    (findAlong files directories).run = some path ↔
      ∃ directory name, IsNearestOf files directories directory name ∧
        path = Path.join directory name := by
  induction directories with
  | nil =>
    refine ⟨fun h => absurd h nofun, ?_⟩
    rintro ⟨directory, name, ⟨-, inner, outer, h, -⟩, -⟩
    exact absurd h (by simp)
  | cons directory outer ih =>
    rw [findAlong_cons]
    cases hfound : (findIn files directory names).run with
    | some found =>
      obtain ⟨name, hfirst, rfl⟩ := findIn_eq_some_iff.mp hfound
      constructor
      · intro h
        exact ⟨directory, name, ⟨hfirst, [], outer, rfl, nofun⟩, (Option.some.inj h).symm⟩
      · rintro ⟨d, name', ⟨hfirst', inner, outer', hsplit, hinner⟩, rfl⟩
        cases inner with
        | nil =>
          obtain ⟨rfl, rfl⟩ := List.cons.inj hsplit
          exact (hfound.symm.trans (findIn_eq_some_iff.mpr ⟨name', hfirst', rfl⟩))
        | cons d' inner =>
          obtain ⟨rfl, -⟩ := List.cons.inj hsplit
          have hnone := findIn_eq_none_iff.mpr (hinner directory List.mem_cons_self).1
          exact absurd (hfound.symm.trans hnone) (by simp)
    | none =>
      have hlacks := findIn_eq_none_iff.mp hfound
      rw [Option.none_or]
      constructor
      · intro h
        cases hroot : holds files directory rootMark with
        | true =>
          rw [hroot] at h
          exact absurd h (by simp)
        | false =>
          rw [hroot] at h
          obtain ⟨d, name, ⟨hfirst, inner, outer', rfl, hinner⟩, rfl⟩ := ih.mp h
          exact ⟨d, name, ⟨hfirst, directory :: inner, outer', rfl,
            List.forall_mem_cons.mpr ⟨⟨hlacks, hroot⟩, hinner⟩⟩, rfl⟩
      · rintro ⟨d, name, ⟨hfirst, inner, outer', hsplit, hinner⟩, rfl⟩
        cases inner with
        | nil =>
          obtain ⟨rfl, rfl⟩ := List.cons.inj hsplit
          have hsome := findIn_eq_some_iff.mpr ⟨name, hfirst, rfl⟩
          exact absurd (hfound.symm.trans hsome) (by simp)
        | cons d' inner =>
          obtain ⟨rfl, rfl⟩ := List.cons.inj hsplit
          obtain ⟨hpassed, hinner⟩ := List.forall_mem_cons.mp hinner
          rw [hpassed.2, if_neg (by simp)]
          exact ih.mpr ⟨d, name, ⟨hfirst, inner, outer', rfl, hinner⟩, rfl⟩

/-! ### What is found -/

/-- The directory is the first in the chain of a path that holds a configuration, the file is the
first of the configurations in it, and no directory before it is the root of a repository. -/
abbrev IsNearest (files : Files Id) (start directory name : String) : Prop :=
  IsNearestOf files (Path.chain start) directory name

theorem find_eq_some_iff :
    (find files start).run = some path ↔
      ∃ directory name, IsNearest files start directory name ∧ path = Path.join directory name :=
  findAlong_eq_some_iff

theorem find_eq_none_iff :
    (find files start).run = none ↔ ∀ directory name, ¬ IsNearest files start directory name := by
  rw [Option.eq_none_iff_forall_ne_some]
  constructor
  · intro h directory name hnearest
    exact h _ (find_eq_some_iff.mpr ⟨directory, name, hnearest, rfl⟩)
  · intro h path hpath
    obtain ⟨directory, name, hnearest, -⟩ := find_eq_some_iff.mp hpath
    exact h directory name hnearest

/-- A path that is named is all that is asked for. -/
theorem resolve_some (files : Files Id) (path start : String) :
    (resolve files (some path) start).run =
      if (files.isPresent path).run then .ok path else .error (missing path) := by
  have hwhen (b : Bool) :
      (if b then pure path else throw (missing path) : ExceptT Error Id String).run =
        if b then .ok path else .error (missing path) := by
    cases b <;> rfl
  exact hwhen _

theorem resolve_none (files : Files Id) (start : String) :
    (resolve files none start).run =
      match (find files start).run with
      | some path => .ok path
      | none => .error (nothingFound start) := by
  have hfound (found : Option String) {e : Error} : (match found with
      | some path => pure path
      | none => throw e : ExceptT Error Id String).run =
      match found with | some path => .ok path | none => .error e := by
    cases found <;> rfl
  exact hfound _

theorem resolve_none_eq_ok_iff :
    (resolve files none start).run = .ok path ↔ (find files start).run = some path := by
  rw [resolve_none]
  cases (find files start).run with
  | none => exact ⟨nofun, nofun⟩
  | some found =>
    exact ⟨fun h => congrArg some (Except.ok.inj h),
      fun h => congrArg Except.ok (Option.some.inj h)⟩

theorem resolve_none_eq_error_iff {e : Error} :
    (resolve files none start).run = .error e ↔
      (find files start).run = none ∧ e = nothingFound start := by
  rw [resolve_none]
  cases (find files start).run with
  | none => exact ⟨fun h => ⟨rfl, (Except.error.inj h).symm⟩, fun h => h.2 ▸ rfl⟩
  | some found => exact ⟨nofun, fun h => absurd h.1 nofun⟩

/-- What the search asks for is a file of the name it says in the directory. -/
theorem isName_of_mem {name : String} (h : name ∈ rootMark :: names) : Path.IsName name := by
  have hnames : ∀ name ∈ rootMark :: names, name.toList ≠ [] ∧ '/' ∉ name.toList ∧
      name.toList ≠ ['.'] ∧ name.toList ≠ ['.', '.'] := by decide
  obtain ⟨hnil, hslash, hdot, hdots⟩ := hnames name h
  exact ⟨hnil, hslash, hdot, hdots⟩

/-- The directories around a path are finitely many, each around the one before. Found is the first
configuration in the first of them that holds any, unless the root of a repository is before it, and
nothing is found if there is none. The path of a file has the components of its directory and behind
them the name of the file. A path that is named is taken if something is there, whatever is
in the directories; without one, the configuration is the one that is found. -/
theorem findsNearest (files : Files Id) (start : String) :
    Path.IsChain start (Path.chain start) ∧
    (Path.chain start).length ≤ start.length + 1 ∧
    (∀ path, (find files start).run = some path ↔
      ∃ directory name, IsNearest files start directory name ∧ path = Path.join directory name) ∧
    ((find files start).run = none ↔ ∀ directory name, ¬ IsNearest files start directory name) ∧
    (∀ directory, ∀ name ∈ rootMark :: names,
      Path.components (Path.join directory name) = Path.components directory ++ [name] ∧
      Path.fileName? (Path.join directory name) = some name) ∧
    (∀ path, (resolve files (some path) start).run =
      if (files.isPresent path).run then .ok path
      else .error (.config ("config file not found: " ++ path) (some path))) ∧
    (∀ path, (resolve files none start).run = .ok path ↔ (find files start).run = some path) ∧
    (∀ e, (resolve files none start).run = .error e ↔
      (find files start).run = none ∧
        e = .config ("no pattern config found (looked for " ++ ", ".intercalate names ++ " from " ++
          start ++ "); pass --config") none) :=
  ⟨Path.isChain_chain start, Path.length_chain_le start, fun _ => find_eq_some_iff,
    find_eq_none_iff, fun directory _ hname =>
      ⟨Path.components_join (isName_of_mem hname) directory,
        Path.fileName?_join (isName_of_mem hname) directory⟩,
    fun path => resolve_some files path start,
    fun _ => resolve_none_eq_ok_iff, fun _ => resolve_none_eq_error_iff⟩

end Gazetteer.Discovery
