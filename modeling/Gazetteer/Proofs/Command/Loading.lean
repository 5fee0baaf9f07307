import Gazetteer.Command.Run
import Gazetteer.Proofs.Discovery.Nearest
import Gazetteer.Proofs.Recognizer.Groups
import Gazetteer.Proofs.Vocabulary.Decode

/-! Loading configurations.

Every run loads its configuration in the same steps: the file is found, its format is settled, it is
read, parsed, checked and compiled. The configuration compiles, or one of the steps is the first
that fails (`Command.loads_or_loadFails`). Which step that is says what the exit code is: only
reading a file fails in its own way (`Command.LoadFails.exitCode_eq`). -/
namespace Gazetteer.Command

/-! ### Steps -/

/-- The steps of runs that may fail. -/
inductive Step
  | method
  | resolution
  | format
  | configFile
  | parsing
  | typing
  | compilation
  | group
  | inputFile
  | term
  deriving Repr, DecidableEq

section Bind
variable {ε α β : Type} {x : ExceptT ε Id α} {f : α → ExceptT ε Id β}

theorem run_bind_of_ok {a : α} (h : x.run = .ok a) : (x >>= f).run = (f a).run := by
  obtain rfl : x = (.ok a : Except ε α) := h
  rfl

theorem run_bind_of_error {e : ε} (h : x.run = .error e) : (x >>= f).run = .error e := by
  obtain rfl : x = (.error e : Except ε α) := h
  rfl

end Bind

/-! ### Loading -/

section Loading
variable {files : Files Id} {a : Arguments} {s : Step} {e : Error} {r : Recognizer}

/-- The configuration is the file at the path, whose format is known. -/
structure IsLocated (files : Files Id) (a : Arguments) (path : String)
    (format : Vocabulary.Format) : Prop where
  resolved : (Discovery.resolve files a.config files.directory).run = .ok path
  known : Vocabulary.Format.ofPath path = .ok format

/-- The configuration can be read as the tree. -/
inductive IsParsed (files : Files Id) (a : Arguments) : Tree → Prop
  | mk {path text : String} {format : Vocabulary.Format} {tree : Tree}
      (hpath : IsLocated files a path format) (htext : files.read path = .ok text)
      (htree : format.readTree text = some tree) : IsParsed files a tree

/-- The configuration compiles to the recognizer. -/
inductive Loads (files : Files Id) (a : Arguments) : Recognizer → Prop
  | mk {tree : Tree} {v : Vocabulary} {r : Recognizer} (htree : IsParsed files a tree)
      (hv : Vocabulary.ofTree tree = .ok v)
      (hr : Recognizer.ofVocabulary v (!a.noWordBoundaries) = .ok r) : Loads files a r

/-- The first step of loading the configuration that fails, with its error. -/
inductive LoadFails (files : Files Id) (a : Arguments) : Step → Error → Prop
  | missing {path : String} (hconfig : a.config = some path)
      (h : (files.isPresent path).run = false) :
      LoadFails files a .resolution (.config ("config file not found: " ++ path) (some path))
  | nothingFound (hconfig : a.config = none)
      (h : (Discovery.find files files.directory).run = none) :
      LoadFails files a .resolution (.config ("no pattern config found (looked for " ++
        ", ".intercalate Discovery.names ++ " from " ++ files.directory.run ++
          "); pass --config") none)
  | format {path : String} {e : Error}
      (hpath : (Discovery.resolve files a.config files.directory).run = .ok path)
      (h : Vocabulary.Format.ofPath path = .error e) : LoadFails files a .format e
  | configFile {path : String} {format : Vocabulary.Format} {fault : ReadFault}
      (hpath : IsLocated files a path format) (h : files.read path = .error fault) :
      LoadFails files a .configFile (.io path fault.message)
  | parsing {path text : String} {format : Vocabulary.Format}
      (hpath : IsLocated files a path format) (htext : files.read path = .ok text)
      (h : format.readTree text = none) :
      LoadFails files a .parsing (.malformed format text (some path))
  | typing {tree : Tree} {e : Error} (htree : IsParsed files a tree)
      (h : Vocabulary.ofTree tree = .error e) : LoadFails files a .typing e
  | compilation {tree : Tree} {v : Vocabulary} {e : Error} (htree : IsParsed files a tree)
      (hv : Vocabulary.ofTree tree = .ok v)
      (h : Recognizer.ofVocabulary v (!a.noWordBoundaries) = .error e) :
      LoadFails files a .compilation e

/-- The text of a source, or why it cannot be read. -/
def content (files : Files Id) : Option String → Except ReadFault String
  | some path => files.read path
  | none => files.readInput

theorem run_readSource (files : Files Id) (path : Option String) :
    (files.readSource path).run =
      (content files path).mapError fun fault => .io (Files.labelOf path) fault.message := by
  cases path with
  | none =>
    refine (run_bind_of_ok rfl).trans ?_
    show _ = files.readInput.mapError _
    cases files.readInput <;> rfl
  | some path =>
    refine (run_bind_of_ok rfl).trans ?_
    show _ = (files.read path).mapError _
    cases files.read path <;> rfl

theorem run_readSource_of_ok {path : Option String} {text : String}
    (h : content files path = .ok text) : (files.readSource path).run = .ok text := by
  rw [run_readSource, h]
  rfl

theorem run_readSource_of_error {path : Option String} {fault : ReadFault}
    (h : content files path = .error fault) :
    (files.readSource path).run = .error (.io (Files.labelOf path) fault.message) := by
  rw [run_readSource, h]
  rfl

theorem run_load {path text : String} {format : Vocabulary.Format}
    (hformat : Vocabulary.Format.ofPath path = .ok format) (htext : files.read path = .ok text) :
    (Discovery.load files path).run = Vocabulary.ofText format text (some path) := by
  have hread : (files.readSource (some path)).run = .ok text := run_readSource_of_ok htext
  unfold Discovery.load
  rw [hformat]
  exact (run_bind_of_ok rfl).trans (run_bind_of_ok hread)

theorem IsLocated.run_recognizer {path text : String} {format : Vocabulary.Format}
    (h : IsLocated files a path format) (htext : files.read path = .ok text) :
    (recognizer files a).run = (do
      let v ← Vocabulary.ofText format text (some path)
      Recognizer.ofVocabulary v (!a.noWordBoundaries) : Except Error Recognizer) := by
  have hload := run_load h.known htext
  refine (run_bind_of_ok rfl).trans ((run_bind_of_ok h.resolved).trans ?_)
  cases hv : Vocabulary.ofText format text (some path) with
  | error e => exact run_bind_of_error (hload.trans hv)
  | ok v => exact run_bind_of_ok (hload.trans hv)

theorem ofText_of_readTree {format : Vocabulary.Format} {text : String} {tree : Tree}
    (path : Option String) (h : format.readTree text = some tree) :
    Vocabulary.ofText format text path = Vocabulary.ofTree tree := by
  unfold Vocabulary.ofText
  rw [h]

theorem IsParsed.run_recognizer {tree : Tree} (h : IsParsed files a tree) :
    (recognizer files a).run = (do
      let v ← Vocabulary.ofTree tree
      Recognizer.ofVocabulary v (!a.noWordBoundaries) : Except Error Recognizer) := by
  obtain ⟨hpath, htext, htree⟩ := h
  rw [hpath.run_recognizer htext, ofText_of_readTree _ htree]

theorem Loads.run_recognizer (h : Loads files a r) : (recognizer files a).run = .ok r := by
  obtain ⟨htree, hv, hr⟩ := h
  rw [htree.run_recognizer, hv]
  exact hr

/-- The groups of a recognizer have been compiled. -/
theorem Loads.exists_ofGroup (h : Loads files a r) {group : String} {c : CompiledGroup}
    (hc : r.group group = .ok c) :
    ∃ g, CompiledGroup.ofGroup g (!a.noWordBoundaries) = .ok c := by
  obtain ⟨-, -, hr⟩ := h
  obtain ⟨g, -, hg⟩ :=
    exists_mem_of_forall₂ (Recognizer.ofVocabulary_ok hr).flip (Recognizer.mem_of_group hc)
  exact ⟨g, hg⟩

theorem LoadFails.run_recognizer (h : LoadFails files a s e) :
    (recognizer files a).run = .error e := by
  cases h with
  | missing hconfig h =>
    refine (run_bind_of_ok rfl).trans (run_bind_of_error ?_)
    rw [hconfig, Discovery.resolve_some, h]
    rfl
  | nothingFound hconfig h =>
    refine (run_bind_of_ok rfl).trans (run_bind_of_error ?_)
    rw [hconfig]
    exact Discovery.resolve_none_eq_error_iff.mpr ⟨h, rfl⟩
  | format hpath h =>
    refine (run_bind_of_ok rfl).trans ((run_bind_of_ok hpath).trans (run_bind_of_error ?_))
    unfold Discovery.load
    rw [h]
    exact run_bind_of_error rfl
  | configFile hpath h =>
    refine (run_bind_of_ok rfl).trans ((run_bind_of_ok hpath.resolved).trans
      (run_bind_of_error ?_))
    unfold Discovery.load
    rw [hpath.known]
    exact (run_bind_of_ok rfl).trans (run_bind_of_error (run_readSource_of_error h))
  | parsing hpath htext h =>
    rw [hpath.run_recognizer htext, Vocabulary.ofText, h]
    rfl
  | typing htree h =>
    rw [htree.run_recognizer, h]
    rfl
  | compilation htree hv h =>
    rw [htree.run_recognizer, hv]
    exact h

end Loading
end Gazetteer.Command
