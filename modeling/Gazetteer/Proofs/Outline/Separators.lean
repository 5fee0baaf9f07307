import Gazetteer.Proofs.Outline.Agreement
import Gazetteer.Proofs.Reading.Outermost
import Gazetteer.Regex.Search

/-! The separators of a pattern.

The reader of a pattern meets a separator where it adds a bar and no group is open; a scan marks
one at depth zero. In a text on which the two agree they are the same characters
(`Draft.separators_lexed`), one fewer than the pattern has branches. -/
namespace Gazetteer

open Pattern (Outline)
open Pattern.Outline (Passes isSeparator)

/-! ### For a scan -/

/-- The positions of the separators among the marks of a text that starts at `n`. -/
def Pattern.Outline.separators (n : Nat) (marks : List (Char × Option Nat)) : List Nat :=
  ((marks.zipIdx n).filter fun m => isSeparator m.1).map Prod.snd

namespace Pattern.Outline

theorem separators_cons (n : Nat) (mark : Char × Option Nat) (marks : List (Char × Option Nat)) :
    separators n (mark :: marks) =
      (if isSeparator mark then [n] else []) ++ separators (n + 1) marks := by
  unfold separators
  rw [List.zipIdx_cons, List.filter_cons]
  split <;> rfl

theorem separators_append (n : Nat) (a b : List (Char × Option Nat)) :
    separators n (a ++ b) = separators n a ++ separators (n + a.length) b := by
  unfold separators
  rw [List.zipIdx_append, List.filter_append, List.map_append]

theorem length_separators (n : Nat) (marks : List (Char × Option Nat)) :
    (separators n marks).length = marks.countP isSeparator := by
  induction marks generalizing n with
  | nil => rfl
  | cons mark marks ih =>
    rw [separators_cons, List.length_append, ih, List.countP_cons, Nat.add_comm]
    split <;> rfl

theorem length_marks (verbose : Bool) (s : Outline) (cs : List Char) :
    (s.marks verbose cs).length = cs.length := by
  induction cs generalizing s with
  | nil => rfl
  | cons c cs ih => simp only [marks, List.length_cons, ih]

theorem Passes.separators {verbose : Bool} {s t : Outline} {w : List Char}
    (h : Passes verbose s w t) (n : Nat) (cs : List Char) :
    Outline.separators n (s.marks verbose (w ++ cs)) =
      Outline.separators (n + w.length) (t.marks verbose cs) := by
  have hquiet : ∀ marks : List (Char × Option Nat), (∀ m ∈ marks, isSeparator m = false) →
      Outline.separators n marks = [] := by
    intro marks hmarks
    apply List.eq_nil_of_length_eq_zero
    rw [length_separators, List.countP_eq_zero]
    intro m hm
    rw [hmarks m hm]
    simp
  rw [marks_append, separators_append, hquiet _ h.quiet, List.nil_append, length_marks, h.after]

end Pattern.Outline

namespace Regex

/-! ### For the reader -/

namespace Draft

/-- The positions of the bars that are read outside all groups, in a text that starts at `n`. -/
def separators (d : Draft) (n : Nat) (cs : List Char) : List Nat :=
  match hs : skipBlanks d.verbose cs with
  | [] => []
  | c :: cs' =>
    match h : Token.read d.verbose (c :: cs') with
    | none => []
    | some (t, rest) =>
      have : rest.length < cs.length := by
        have h₁ := Token.length_read_lt h
        have h₂ := length_skipBlanks_le d.verbose cs
        rw [hs] at h₂
        omega
      match d.add t with
      | none => []
      | some d' =>
        let place := n + (cs.length - (c :: cs').length)
        (if t.isBar && d.opened.isEmpty then [place] else []) ++
          d'.separators (n + (cs.length - rest.length)) rest
termination_by cs.length

theorem separators_eq (d : Draft) (n : Nat) (cs : List Char) :
    d.separators n cs =
      match skipBlanks d.verbose cs with
      | [] => []
      | c :: cs' =>
        match Token.read d.verbose (c :: cs') with
        | none => []
        | some (t, rest) =>
          match d.add t with
          | none => []
          | some d' =>
            (if t.isBar && d.opened.isEmpty then [n + (cs.length - (c :: cs').length)] else []) ++
              d'.separators (n + (cs.length - rest.length)) rest := by
  rw [separators]
  split
  · rename_i hs
    rw [hs]
  · rename_i c cs' hs
    simp only [hs]
    split
    · rename_i h
      simp only [h]
    · rename_i t rest h
      simp only [h]

variable {d d' : Draft} {b w tl : List Char} {t : Token}

theorem separators_skip (d : Draft) (n : Nat) (cs : List Char) :
    d.separators (n + (cs.length - (skipBlanks d.verbose cs).length)) (skipBlanks d.verbose cs) =
      d.separators n cs := by
  rw [separators_eq, separators_eq d n cs, skipBlanks_skipBlanks]
  have hle := length_skipBlanks_le d.verbose cs
  cases hskip : skipBlanks d.verbose cs with
  | nil => rfl
  | cons c cs' =>
    rw [hskip] at hle
    simp only
    cases hread : Token.read d.verbose (c :: cs') with
    | none => rfl
    | some p =>
      have hlt := Token.length_read_lt hread
      simp only
      rw [Nat.sub_self, Nat.add_zero,
        show n + (cs.length - (c :: cs').length) + ((c :: cs').length - p.2.length) =
          n + (cs.length - p.2.length) by omega]

/-- A bar is a separator if no group is open. -/
theorem separators_token (hb : Blank d.verbose b) (hw : Token.Lexeme d.verbose tl w t)
    (hsolid : w.head?.all (isSolid d.verbose)) (ha : d.add t = some d') (n : Nat) :
    d.separators n (b ++ (w ++ tl)) =
      (if t.isBar && d.opened.isEmpty then [n + b.length] else []) ++
        d'.separators (n + b.length + w.length) tl := by
  obtain ⟨rest, hread, hleaves⟩ := Token.read_complete hw
  obtain ⟨c, x, rfl⟩ := hw.cons
  have hskip : skipBlanks d.verbose (b ++ (c :: x ++ tl)) = c :: x ++ tl :=
    hb.skip_cons (by simpa using hsolid) _
  have hrest : d'.separators (n + ((b ++ (c :: x ++ tl)).length - rest.length)) rest =
      d'.separators (n + b.length + (c :: x).length) tl := by
    rcases hleaves with rfl | ⟨hlasts, rfl⟩
    · congr 1
      simp only [List.length_append]
      omega
    · rw [← verbose_of_lasts hlasts ha, ← separators_skip d' _ tl]
      have hle := length_skipBlanks_le d'.verbose tl
      congr 1
      simp only [List.length_append]
      omega
  rw [separators_eq, hskip]
  simp only [List.cons_append]
  rw [← List.cons_append, hread]
  simp only
  rw [ha]
  simp only
  rw [hrest, List.length_append, Nat.add_sub_cancel]

theorem separators_trailing {o : Bool} (hb : Trailing d.verbose b o) (n : Nat) :
    d.separators n b = [] := by
  rw [separators_eq, hb.skip_eq_nil]

theorem length_opened (ha : d.add t = some d') :
    d'.opened.length = t.depthAfter d.opened.length := by
  unfold add at ha
  split at ha
  · unfold openGroup at ha
    split at ha
    · obtain rfl := Option.some.inj ha
      rfl
    · split at ha
      · exact absurd ha (by simp)
      · obtain rfl := Option.some.inj ha
        rfl
    · obtain rfl := Option.some.inj ha
      rfl
  · obtain rfl := Option.some.inj ha
    rfl
  · split at ha
    · exact absurd ha (by simp)
    · rename_i hopened
      obtain rfl := Option.some.inj ha
      simp [Token.depthAfter, hopened]
  · obtain rfl := Option.some.inj ha
    rfl
  · obtain ⟨l, -, rfl⟩ := Option.map_eq_some_iff.1 ha
    rfl
  · obtain rfl := Option.some.inj ha
    rfl

/-- A scan and the reader find the same separators. -/
theorem separators_lexed {scanned o : Bool} {d e : Draft} {cs : List Char} (h : Lexed d cs e o)
    (ha : d.agrees scanned cs) (n : Nat) :
    Outline.separators n ((Outline.level d.opened.length).marks scanned cs) =
      d.separators n cs := by
  induction h generalizing n with
  | @blank d b o hb =>
    have hpass := (agrees_blank hb ha d.opened.length).toPasses.separators n []
    rw [List.append_nil] at hpass
    rw [hpass, separators_trailing hb]
    rfl
  | @token d d' e b w tl t o hb hw hsolid hadd _ ih =>
    obtain ⟨-, hinert, hpass, hrest⟩ := agrees_token hb hw hsolid hadd ha
    have hlater := ih hrest (n + b.length + w.length)
    rw [length_opened hadd] at hlater
    rw [separators_token hb hw hsolid hadd, (hinert _).toPasses.separators, ← hlater]
    by_cases hbar : t = .bar
    · subst hbar
      obtain rfl := hw.eq_bar
      have hmark : isSeparator ('|', some d.opened.length) = d.opened.isEmpty := by
        cases d.opened <;> rfl
      rw [← hmark]
      exact Outline.separators_cons ..
    · have hnot : t.isBar = false := by
        cases t with
        | bar => exact absurd rfl hbar
        | _ => rfl
      rw [hnot]
      exact (hpass hbar _).separators _ tl

/-! ### Branches -/

theorem outermost_lexed {o : Bool} {d e : Draft} {cs : List Char} (h : Lexed d cs e o)
    (hp : d.Plain) (n : Nat) :
    e.Plain ∧ e.outermost.branches.length =
      d.outermost.branches.length + (d.separators n cs).length := by
  induction h generalizing n with
  | blank hb => exact ⟨hp, by rw [separators_trailing hb]; rfl⟩
  | @token d d' e b w tl t o hb hw hsolid hadd _ ih =>
    obtain ⟨hplain, hbranches⟩ := outermost_add hadd hw.isSimple
    obtain ⟨he, hlater⟩ := ih (hplain hp) (n + b.length + w.length)
    refine ⟨he, ?_⟩
    rw [hlater, hbranches, separators_token hb hw hsolid hadd, List.length_append]
    split <;> simp only [List.length_cons, List.length_nil] <;> omega

end Draft

/-- A pattern has one branch more than it has separators. -/
theorem branchCount_of_read {verbose : Bool} {pattern : String} {a : Ast}
    (h : Ast.read verbose pattern = some a) :
    a.branchCount = ((Draft.start verbose).separators 0 pattern.toList).length + 1 := by
  obtain ⟨-, e, o, hlexed, hopened, rfl⟩ := Ast.read_eq_some h
  have hstart : (Draft.start verbose).Plain := by
    intro a ha
    exact absurd ha (by simp [Draft.outermost, Draft.start, Level.empty])
  obtain ⟨hplain, hcount⟩ := Draft.outermost_lexed hlexed hstart 0
  unfold Draft.Plain at hplain
  rw [Draft.outermost_of_nil hopened] at hplain hcount
  rw [Draft.branchCount_content hplain, hcount]
  exact congrArg (· + 1) (Nat.zero_add _)

end Regex

namespace Pattern

/-- Of a pattern on which the two agree, a scan marks as separators the bars that the reader
meets outside all groups, and it counts the branches of the pattern. -/
theorem separators_of_agrees {verbose : Bool} {pattern : String} {a : Regex.Ast}
    (hread : Regex.Ast.read verbose pattern = some a)
    (hagrees : (Regex.Draft.start verbose).agrees verbose pattern.toList) :
    Outline.separators 0 (Outline.start.marks verbose pattern.toList) =
        (Regex.Draft.start verbose).separators 0 pattern.toList ∧
      alternatives verbose pattern = a.branchCount := by
  have hpositions : Outline.separators 0 (Outline.start.marks verbose pattern.toList) =
      (Regex.Draft.start verbose).separators 0 pattern.toList := by
    obtain ⟨-, e, o, hlexed, -, -⟩ := Regex.Ast.read_eq_some hread
    exact Regex.Draft.separators_lexed hlexed hagrees 0
  refine ⟨hpositions, ?_⟩
  rw [Regex.branchCount_of_read hread, ← hpositions, Outline.length_separators]
  rfl

/-- A class is left alone by a scan that agrees with the reader. -/
theorem separators_behind_class :
    ∃ a, Regex.Ast.read true "[^]|] | (b|c) # |" = some a ∧
      (Regex.Draft.start true).agrees true "[^]|] | (b|c) # |".toList ∧
      Outline.separators 0 (Outline.start.marks true "[^]|] | (b|c) # |".toList) =
          (Regex.Draft.start true).separators 0 "[^]|] | (b|c) # |".toList ∧
        alternatives true "[^]|] | (b|c) # |" = a.branchCount := by
  have hagrees : (Regex.Draft.start true).agrees true "[^]|] | (b|c) # |".toList := by
    decide +kernel
  have hread : (Regex.Ast.read true "[^]|] | (b|c) # |").isSome := by decide +kernel
  obtain ⟨a, ha⟩ := Option.isSome_iff_exists.mp hread
  exact ⟨a, ha, hagrees, separators_of_agrees ha hagrees⟩

/-- A second caret makes a scan take the closing bracket of a class for a member of it, so that the
separator behind the class is missed. -/
theorem separator_missed_behind_carets :
    ¬ ∀ (o : Regex.Options) (pattern : String) (r : Regex) (a : Regex.Ast),
      Regex.ofPattern? o pattern = some r → Regex.Ast.read o.verbose pattern = some a →
        Outline.separators 0 (Outline.start.marks o.verbose pattern.toList) =
            (Regex.Draft.start o.verbose).separators 0 pattern.toList ∧
          alternatives o.verbose pattern = a.branchCount := by
  intro h
  have hregex : (Regex.ofPattern? ⟨false, false, false, false⟩ "[^^]|a").isSome := by
    decide +kernel
  have hread : (Regex.Ast.read false "[^^]|a").isSome := by decide +kernel
  obtain ⟨r, hr⟩ := Option.isSome_iff_exists.mp hregex
  obtain ⟨a, ha⟩ := Option.isSome_iff_exists.mp hread
  have hpositions := (h ⟨false, false, false, false⟩ "[^^]|a" r a hr ha).1
  exact absurd hpositions (by decide +kernel)

end Pattern
end Gazetteer
