/-! Paths.

A path is a text whose components stand between slashes. Everything here looks at the text alone:
whether a path leads anywhere is for a file system to say. At the end of a path, slashes and
components `.` do not count. -/
namespace Gazetteer.Path

/-! ### Reversed paths

The end of a path is what matters, so paths are taken from their end. -/

/-- A reversed path without the slashes and components `.` at its end; the root stays. -/
def trim : List Char → List Char
  | ['/'] => ['/']
  | '/' :: cs => trim cs
  | '.' :: '/' :: cs => trim ('/' :: cs)
  | cs => cs

/-- The reversed path of the directory around a reversed path. -/
def parent (cs : List Char) : Option (List Char) :=
  match trim cs with
  | [] => none
  | ['/'] => none
  | c :: cs => some (trim ((c :: cs).dropWhile (· != '/')))

theorem length_trim_le (cs : List Char) : (trim cs).length ≤ cs.length := by
  fun_induction trim cs with
  | case1 => exact Nat.le_refl _
  | case2 cs _ ih => exact Nat.le_succ_of_le ih
  | case3 cs ih => exact Nat.le_succ_of_le ih
  | case4 cs => exact Nat.le_refl _

/-- A slash is left at the end of the root only. -/
theorem trim_eq_slash_cons {cs rest : List Char} (h : trim cs = '/' :: rest) : rest = [] := by
  fun_induction trim cs with
  | case1 => exact (List.cons.inj h).2.symm
  | case2 cs _ ih => exact ih h
  | case3 cs ih => exact ih h
  | case4 cs h₁ h₂ h₃ =>
    subst h
    exact absurd rfl (h₂ rest)

theorem length_parent_lt {cs outer : List Char} (h : parent cs = some outer) :
    outer.length < cs.length := by
  unfold parent at h
  split at h
  · simp at h
  · simp at h
  · rename_i c rest hne htrim
    obtain rfl := Option.some.inj h
    have hc : c ≠ '/' := by
      rintro rfl
      exact hne rfl (trim_eq_slash_cons htrim)
    have h₁ := length_trim_le cs
    have h₂ := length_trim_le ((c :: rest).dropWhile (· != '/'))
    have h₃ : ((c :: rest).dropWhile (· != '/')).length ≤ rest.length := by
      rw [List.dropWhile_cons_of_pos (by simpa using hc)]
      exact (List.dropWhile_sublist _).length_le
    rw [htrim, List.length_cons] at h₁
    omega

/-- The reversed paths of the directories around a reversed path, innermost first. -/
def parents (cs : List Char) : List (List Char) :=
  match h : parent cs with
  | none => []
  | some outer =>
    have := length_parent_lt h
    outer :: parents outer
termination_by cs.length

/-! ### Paths -/

/-- A path and the paths of the directories around it, innermost first. -/
def chain (path : String) : List String :=
  path :: (parents path.toList.reverse).map fun cs => .ofList cs.reverse

def isAbsolute (path : String) : Bool := path.toList.head? == some '/'

/-- The path of a name, or of any path that is not absolute, in a directory. -/
def join (directory path : String) : String :=
  if isAbsolute path || directory.isEmpty then path
  else if directory.toList.getLast? == some '/' then directory ++ path
  else directory ++ "/" ++ path

/-- The last component, unless it is one that only leads elsewhere. -/
def fileName? (path : String) : Option String :=
  match (trim path.toList.reverse).takeWhile (· != '/') with
  | [] => none
  | ['.'] => none
  | ['.', '.'] => none
  | name => some (.ofList name.reverse)

/-- What follows the last dot of the file name. A dot that begins the name does not count. -/
def extension? (path : String) : Option String := do
  let name := (← fileName? path).toList.reverse
  match name.dropWhile (· != '.') with
  | '.' :: _ :: _ => some (.ofList (name.takeWhile (· != '.')).reverse)
  | _ => none

end Gazetteer.Path
