/-! The outline of a pattern: what can be told without reading it in full.

An outline is scanned character by character. It knows how deep a character stands in
parentheses and which characters carry no structure: escaped ones, members of a bracketed
class, and comments of a verbose pattern. That is enough to find the bars that separate the
alternatives of the whole pattern, and it is defined for every text, well formed or not. -/
namespace Gazetteer.Pattern

/-- Where a scan has got to. -/
structure Outline where
  /-- The number of open parentheses. -/
  depth : Nat
  /-- The number of open brackets. -/
  brackets : Nat
  /-- Whether a closing bracket would stand for itself. -/
  fresh : Bool
  /-- Whether the next character is escaped. -/
  escaped : Bool
  inComment : Bool
  deriving Repr, DecidableEq

namespace Outline

def start : Outline := ⟨0, 0, false, false, false⟩

/-- Inside brackets: a closing bracket right after the opening one, or after the negation of
the class, is a member. -/
def inBrackets (s : Outline) (c : Char) : Outline :=
  let next := { s with fresh := false }
  match c with
  | ']' => if s.fresh then next else { next with brackets := s.brackets - 1 }
  | '^' => { next with fresh := s.fresh }
  | '[' => { next with brackets := s.brackets + 1, fresh := true }
  | _ => next

/-- Takes a character. The answer holds the depth at which the character stands, or nothing if it
carries no structure. A closing parenthesis stands at the depth it returns to; one that closes
nothing leaves the depth at zero. -/
def next (verbose : Bool) (s : Outline) (c : Char) : Outline × Option Nat :=
  if s.escaped then ({ s with escaped := false, fresh := false }, none)
  else if s.inComment then ({ s with inComment := c != '\n' }, none)
  else if c == '\\' then ({ s with escaped := true }, none)
  else if s.brackets > 0 then (s.inBrackets c, none)
  else match c with
    | '[' => ({ s with brackets := 1, fresh := true }, some s.depth)
    | '(' => ({ s with depth := s.depth + 1 }, some s.depth)
    | ')' => ({ s with depth := s.depth - 1 }, some (s.depth - 1))
    | '#' => if verbose then ({ s with inComment := true }, none) else (s, some s.depth)
    | _ => (s, some s.depth)

/-- Where the scan gets to over a text. -/
def after (verbose : Bool) (s : Outline) (cs : List Char) : Outline :=
  cs.foldl (fun s c => (s.next verbose c).1) s

/-- The characters of a text with the depth of each. -/
def marks (verbose : Bool) (s : Outline) : List Char → List (Char × Option Nat)
  | [] => []
  | c :: cs => (c, (s.next verbose c).2) :: marks verbose (s.next verbose c).1 cs

@[simp] theorem marks_nil (verbose : Bool) (s : Outline) : marks verbose s [] = [] := rfl

theorem after_append (verbose : Bool) (s : Outline) (a b : List Char) :
    s.after verbose (a ++ b) = (s.after verbose a).after verbose b :=
  List.foldl_append ..

theorem marks_append (verbose : Bool) (s : Outline) (a b : List Char) :
    s.marks verbose (a ++ b) = s.marks verbose a ++ (s.after verbose a).marks verbose b := by
  induction a generalizing s with
  | nil => rfl
  | cons c cs ih => simp only [List.cons_append, marks, ih]; rfl

/-- Whether a character separates alternatives of the whole pattern. -/
def isSeparator (mark : Char × Option Nat) : Bool :=
  mark.1 == '|' && mark.2 == some 0

end Outline

/-- The number of alternatives of the whole pattern. -/
def alternatives (verbose : Bool) (pattern : String) : Nat :=
  (Outline.start.marks verbose pattern.toList).countP Outline.isSeparator + 1

end Gazetteer.Pattern
