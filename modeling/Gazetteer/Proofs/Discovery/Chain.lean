import Mathlib.Data.List.TakeWhile
import Gazetteer.Path

/-! The directories around a path.

The directory around a path has all of its components but the last
(`Path.componentsOf_parent`). The chain of a path begins with the path, and each directory in it is
followed by the one around it, up to one with none around it (`Path.isChain_chain`). Every step makes
the path shorter, so the chain ends (`Path.length_chain_le`). -/
namespace Gazetteer.Path

/-! ### Components -/

/-- Whether what stands behind a slash leads anywhere. -/
def leads (piece : List Char) : Bool := piece != [] && piece != ['.']

/-- The components of a path. A slash at its beginning is the root, and what stands before the first
slash counts whatever it is. -/
def componentsOf (cs : List Char) : List (List Char) :=
  match cs.splitOn '/' with
  | [] => []
  | [] :: rest => if rest = [] then [] else ['/'] :: rest.filter leads
  | first :: rest => first :: rest.filter leads

theorem componentsOf_slash (cs : List Char) :
    componentsOf ('/' :: cs) = ['/'] :: (cs.splitOn '/').filter leads := by
  have hsplit : ('/' :: cs).splitOn '/' = [] :: cs.splitOn '/' :=
    List.splitOn_append_cons_self [] cs
  unfold componentsOf
  rw [hsplit]
  exact if_neg (List.splitOn_ne_nil _ _)

theorem componentsOf_append {cs : List Char} (h : cs ≠ []) (cs' : List Char) :
    componentsOf (cs ++ '/' :: cs') = componentsOf cs ++ (cs'.splitOn '/').filter leads := by
  have hcs : ['/'].intercalate (cs.splitOn '/') = cs := List.intercalate_splitOn '/'
  unfold componentsOf
  rw [List.splitOn_append_cons_self]
  cases hpieces : cs.splitOn '/' with
  | nil => exact absurd hpieces (List.splitOn_ne_nil _ _)
  | cons first rest =>
    rw [hpieces] at hcs
    cases first with
    | nil =>
      cases rest with
      | nil => exact absurd hcs.symm h
      | cons piece rest => exact congrArg (['/'] :: ·) (List.filter_append ..)
    | cons c first => exact congrArg ((c :: first) :: ·) (List.filter_append ..)

theorem componentsOf_name {name : List Char} (hne : name ≠ []) (h : '/' ∉ name) :
    componentsOf name = [name] := by
  obtain ⟨c, cs, rfl⟩ := List.exists_cons_of_ne_nil hne
  unfold componentsOf
  rw [List.splitOn_eq_singleton h]
  rfl

/-- A slash at the end of a path does not count. -/
theorem componentsOf_concat (cs : List Char) (h : cs ≠ []) :
    componentsOf (cs ++ ['/']) = componentsOf cs := by
  rw [componentsOf_append h]
  simp [leads]

theorem componentsOf_append_name {cs name : List Char} (hne : name ≠ []) (hdot : name ≠ ['.'])
    (hslash : '/' ∉ name) :
    componentsOf (cs ++ '/' :: name) = componentsOf (cs ++ ['/']) ++ [name] := by
  have hlast : (name.splitOn '/').filter leads = [name] := by
    rw [List.splitOn_eq_singleton hslash]
    simp [leads, hne, hdot]
  by_cases hcs : cs = []
  · rw [hcs, List.nil_append, List.nil_append, componentsOf_slash, hlast]
    rfl
  · rw [componentsOf_append hcs, hlast, componentsOf_concat cs hcs]

/-! ### Trimmed paths -/

theorem componentsOf_trim (cs : List Char) :
    componentsOf (trim cs).reverse = componentsOf cs.reverse := by
  fun_induction trim cs with
  | case1 => rfl
  | case2 cs hne ih =>
    rw [ih, List.reverse_cons]
    exact (componentsOf_concat _ (by simpa using hne)).symm
  | case3 cs ih =>
    have hpieces : ('.' :: '/' :: cs).reverse = cs.reverse ++ '/' :: ['.'] := by simp
    rw [ih, hpieces, List.reverse_cons]
    by_cases hcs : cs.reverse = []
    · rw [hcs]
      decide
    · rw [componentsOf_append hcs, componentsOf_append hcs]
      rfl
  | case4 => rfl

/-- A component that only stays where it is does not end a trimmed path. -/
theorem trim_ne_dot (cs rest : List Char) : trim cs ≠ '.' :: '/' :: rest := by
  fun_induction trim cs with
  | case1 => simp
  | case2 _ _ ih => exact ih
  | case3 _ ih => exact ih
  | case4 cs _ _ h =>
    rintro rfl
    exact h rest rfl

/-- A name at the end of a path is left as it is. -/
theorem trim_name {c : Char} {cs : List Char} (hslash : '/' ∉ c :: cs) (hdot : c :: cs ≠ ['.'])
    (rest : List Char) : trim (c :: cs ++ rest) = c :: cs ++ rest := by
  have hc : c ≠ '/' := fun heq => hslash (heq ▸ List.mem_cons_self)
  rw [List.cons_append]
  refine trim.eq_4 _ (fun h => hc (List.cons.inj h).1) (fun _ h => hc (List.cons.inj h).1)
    fun outer h => ?_
  obtain ⟨rfl, htail⟩ := List.cons.inj h
  cases cs with
  | nil => exact hdot rfl
  | cons d cs =>
    obtain ⟨rfl, -⟩ := List.cons.inj htail
    exact hslash (List.mem_cons_of_mem _ List.mem_cons_self)

/-- The path around a path has all of its components but the last. -/
theorem componentsOf_parent {cs outer : List Char} (h : parent cs = some outer) :
    ∃ name, componentsOf cs.reverse = componentsOf outer.reverse ++ [name] := by
  unfold parent at h
  split at h
  · exact absurd h (by simp)
  · exact absurd h (by simp)
  · rename_i c rest hroot htrim
    obtain rfl := Option.some.inj h
    have hc : c ≠ '/' := by
      rintro rfl
      exact hroot rfl (trim_eq_slash_cons htrim)
    rw [componentsOf_trim ((c :: rest).dropWhile _), ← componentsOf_trim cs, htrim]
    have hsplit := List.takeWhile_append_dropWhile (p := (· != '/')) (l := c :: rest)
    have hne : (c :: rest).takeWhile (· != '/') ≠ [] := by simp [hc]
    have hslash : '/' ∉ (c :: rest).takeWhile (· != '/') := fun hmem => by
      have hall := List.all_eq_true.mp (List.all_takeWhile (p := (· != '/')) (l := c :: rest))
      simpa using hall '/' hmem
    generalize (c :: rest).takeWhile (· != '/') = name at hsplit hne hslash
    refine ⟨name.reverse, ?_⟩
    cases hdrop : (c :: rest).dropWhile (· != '/') with
    | nil =>
      rw [hdrop, List.append_nil] at hsplit
      rw [← hsplit, componentsOf_name (by simpa using hne) (by simpa using hslash)]
      rfl
    | cons slash around =>
      obtain rfl : slash = '/' := by
        have hnot := List.head?_dropWhile_not (· != '/') (c :: rest)
        rw [hdrop] at hnot
        simpa using hnot
      have hdot : name ≠ ['.'] := by
        rintro rfl
        rw [hdrop] at hsplit
        exact trim_ne_dot cs around (htrim.trans hsplit.symm)
      rw [← hsplit, hdrop, List.reverse_append, List.reverse_cons, List.append_assoc,
        List.singleton_append]
      exact componentsOf_append_name (by simpa using hne) (by simpa using hdot)
        (by simpa using hslash)

theorem componentsOf_of_parent_eq_none {cs : List Char} (h : parent cs = none) :
    componentsOf cs.reverse = [] ∨ componentsOf cs.reverse = [['/']] := by
  rw [← componentsOf_trim]
  unfold parent at h
  split at h
  · rename_i htrim
    rw [htrim]
    exact .inl rfl
  · rename_i htrim
    rw [htrim]
    exact .inr rfl
  · exact absurd h (by simp)

/-! ### Names in directories -/

def components (path : String) : List String := (componentsOf path.toList).map String.ofList

/-- A text that can be the name of something in a directory. -/
structure IsName (name : String) : Prop where
  ne_nil : name.toList ≠ []
  noSlash : '/' ∉ name.toList
  ne_dot : name.toList ≠ ['.']
  ne_dots : name.toList ≠ ['.', '.']

/-- A name is put behind all of the directory's own path, with one slash between them. -/
theorem toList_join {name : String} (h : IsName name) (directory : String) :
    (join directory name).toList = name.toList ∧ directory.toList = [] ∨
      ∃ cs, (join directory name).toList = cs ++ '/' :: name.toList ∧
        componentsOf (cs ++ ['/']) = componentsOf directory.toList := by
  have habsolute : isAbsolute name = false := by
    obtain ⟨c, cs, hname⟩ := List.exists_cons_of_ne_nil h.ne_nil
    have hc : c ≠ '/' := fun heq => h.noSlash (by simp [hname, heq])
    simpa [isAbsolute, hname] using hc
  unfold join
  by_cases hempty : directory = ""
  · subst hempty
    exact .inl ⟨by simp, rfl⟩
  have hne : directory.toList ≠ [] := fun hnil => hempty (String.toList_inj.mp hnil)
  have hisEmpty : directory.isEmpty = false := by simpa using hempty
  rw [habsolute, hisEmpty]
  refine .inr ?_
  simp only [Bool.or_self, Bool.false_eq_true, if_false]
  split
  · rename_i hlast
    obtain ⟨cs, hsplit⟩ := List.getLast?_eq_some_iff.mp (eq_of_beq hlast)
    exact ⟨cs, by rw [String.toList_append, hsplit]; simp, by rw [hsplit]⟩
  · exact ⟨directory.toList, by simp, componentsOf_concat _ hne⟩

theorem components_join {name : String} (h : IsName name) (directory : String) :
    components (join directory name) = components directory ++ [name] := by
  have hname : [String.ofList name.toList] = [name] := by rw [String.ofList_toList]
  unfold components
  rcases toList_join h directory with ⟨hjoin, hnil⟩ | ⟨cs, hjoin, hcs⟩
  · rw [hjoin, hnil, componentsOf_name h.ne_nil h.noSlash]
    exact hname
  · rw [hjoin, componentsOf_append_name h.ne_nil h.ne_dot h.noSlash, hcs, List.map_append]
    exact congrArg _ hname

/-- What stands before the first slash is a name whose characters are no slashes. -/
theorem takeWhile_name {cs rest : List Char} (h : '/' ∉ cs)
    (hcut : rest = [] ∨ ∃ tail, rest = '/' :: tail) : (cs ++ rest).takeWhile (· != '/') = cs := by
  have hall : cs.takeWhile (· != '/') = cs :=
    List.takeWhile_eq_self_iff.mpr fun c hc => bne_iff_ne.mpr fun heq => h (heq ▸ hc)
  rcases hcut with rfl | ⟨tail, rfl⟩
  · rw [List.append_nil, hall]
  · rw [List.takeWhile_append, hall, if_pos rfl]
    simp

theorem fileName?_join {name : String} (h : IsName name) (directory : String) :
    fileName? (join directory name) = some name := by
  obtain ⟨rest, hrest, hcut⟩ : ∃ rest, (join directory name).toList.reverse =
      name.toList.reverse ++ rest ∧ (rest = [] ∨ ∃ cs, rest = '/' :: cs) := by
    rcases toList_join h directory with ⟨hjoin, -⟩ | ⟨cs, hjoin, -⟩
    · exact ⟨[], by rw [hjoin, List.append_nil], .inl rfl⟩
    · exact ⟨'/' :: cs.reverse, by rw [hjoin]; simp, .inr ⟨_, rfl⟩⟩
  obtain ⟨c, cs, hname⟩ := List.exists_cons_of_ne_nil (List.reverse_ne_nil_iff.mpr h.ne_nil)
  have hslash : '/' ∉ c :: cs := fun hmem => h.noSlash (List.mem_reverse.mp (hname ▸ hmem))
  have hdot : c :: cs ≠ ['.'] := fun heq => h.ne_dot (List.reverse_eq_iff.mp (hname.trans heq))
  unfold fileName?
  rw [hrest, hname, trim_name hslash hdot, takeWhile_name hslash hcut]
  split
  · rename_i heq
    exact absurd heq (by simp)
  · rename_i heq
    exact absurd heq hdot
  · rename_i heq
    exact absurd (List.reverse_eq_iff.mp (hname.trans heq)) h.ne_dots
  · rw [← hname, List.reverse_reverse, String.ofList_toList]

/-! ### Chains -/

/-- The path of the directory around a path. -/
def parent? (path : String) : Option String :=
  (parent path.toList.reverse).map fun cs => .ofList cs.reverse

theorem components_of_parent? {path outer : String} (h : parent? path = some outer) :
    ∃ name, components path = components outer ++ [name] := by
  obtain ⟨cs, hcs, rfl⟩ := Option.map_eq_some_iff.mp h
  obtain ⟨name, hname⟩ := componentsOf_parent hcs
  rw [List.reverse_reverse] at hname
  refine ⟨.ofList name, ?_⟩
  rw [components, hname, List.map_append, components, String.toList_ofList]
  rfl

theorem components_of_parent?_eq_none {path : String} (h : parent? path = none) :
    components path = [] ∨ components path = ["/"] := by
  have hcomponents := componentsOf_of_parent_eq_none (Option.map_eq_none_iff.mp h)
  rw [List.reverse_reverse] at hcomponents
  unfold components
  rcases hcomponents with hcomponents | hcomponents
  · rw [hcomponents]
    exact .inl rfl
  · rw [hcomponents]
    exact .inr rfl

theorem parents_eq (cs : List Char) :
    parents cs = ((parent cs).map fun outer => outer :: parents outer).getD [] := by
  rw [parents]
  split
  · rename_i h
    rw [h]
    rfl
  · rename_i outer h
    show outer :: parents outer = _
    rw [h]
    rfl

theorem chain_eq (path : String) : chain path = path :: ((parent? path).map chain).getD [] := by
  unfold chain parent?
  rw [parents_eq]
  cases parent path.toList.reverse with
  | none => rfl
  | some outer => simp

/-- A path and the directories around it, each followed by the one that has all of its components
but the last, up to the root or to a path without components. -/
structure IsChain (path : String) (directories : List String) : Prop where
  first : directories[0]? = some path
  next : ∀ i d, directories[i]? = some d → directories[i + 1]? = parent? d
  drops : ∀ i d outer, directories[i]? = some d → directories[i + 1]? = some outer →
    ∃ name, components d = components outer ++ [name]
  ends : ∀ i d, directories[i]? = some d → directories[i + 1]? = none →
    components d = [] ∨ components d = ["/"]

theorem getElem?_chain_succ {path d : String} {i : Nat} (h : (chain path)[i]? = some d) :
    (chain path)[i + 1]? = parent? d := by
  induction i generalizing path with
  | zero =>
    rw [chain_eq] at h ⊢
    obtain rfl := Option.some.inj h
    cases parent? path with
    | none => rfl
    | some outer =>
      show (chain outer)[0]? = _
      rw [chain_eq]
      rfl
  | succ i ih =>
    rw [chain_eq] at h ⊢
    cases hparent : parent? path with
    | none =>
      rw [hparent] at h
      exact absurd h (by simp)
    | some outer =>
      rw [hparent] at h
      exact ih h

theorem isChain_chain (path : String) : IsChain path (chain path) where
  first := by
    rw [chain_eq]
    rfl
  next _ _ := getElem?_chain_succ
  drops _ _ _ h houter := components_of_parent? ((getElem?_chain_succ h).symm.trans houter)
  ends _ _ h hnone := components_of_parent?_eq_none ((getElem?_chain_succ h).symm.trans hnone)

theorem length_parents_le (cs : List Char) : (parents cs).length ≤ cs.length := by
  fun_induction parents cs with
  | case1 => exact Nat.zero_le _
  | case2 cs outer h _ ih =>
    have hlt := length_parent_lt h
    rw [List.length_cons]
    omega

/-- No more directories are in a chain than its path has characters, but for the path itself. -/
theorem length_chain_le (path : String) : (chain path).length ≤ path.length + 1 := by
  have h := length_parents_le path.toList.reverse
  rw [List.length_reverse, String.length_toList] at h
  rw [chain, List.length_cons, List.length_map]
  omega

end Gazetteer.Path
