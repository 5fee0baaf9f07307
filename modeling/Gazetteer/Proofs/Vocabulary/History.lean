import Mathlib.Data.List.Induction
import Gazetteer.Proofs.Vocabulary.Place

/-! Vocabularies and their histories.

A vocabulary is built by changes: groups are inserted, and groups that are there are edited. What
it holds can be read off the history of these changes (`Vocabulary.recordsHistory`). Names stand in
the order in which they were first declared, a group is what its last insertion and the edits behind
it made of it, and no change touches what it does not name. -/
namespace Gazetteer

/-! ### Groups -/

namespace TermGroup

/-- A change within a group. -/
inductive Edit
  | term (name pattern : String)
  | flags (directive : Option Directive)

namespace Edit

def apply (e : Edit) (g : TermGroup) : TermGroup :=
  match e with
  | .term name pattern => g.insertTerm name pattern
  | .flags directive => g.setFlags directive

/-- The name of the term that is set. -/
def term? : Edit → Option String
  | .term name _ => some name
  | .flags _ => none

/-- The directive that is set, which may be none. -/
def directive? : Edit → Option (Option Directive)
  | .term _ _ => none
  | .flags directive => some directive

end Edit

/-- What edits make of a group. -/
def edited (g : TermGroup) (edits : List Edit) : TermGroup :=
  edits.foldl (fun g e => e.apply g) g

variable {name : String} {g : TermGroup} {edits : List Edit}

theorem edited_append (g : TermGroup) (first others : List Edit) :
    g.edited (first ++ others) = (g.edited first).edited others := List.foldl_append

theorem edited_concat (g : TermGroup) (edits : List Edit) (e : Edit) :
    g.edited (edits ++ [e]) = e.apply (g.edited edits) := List.foldl_concat ..

theorem name_apply (g : TermGroup) (e : Edit) : (e.apply g).name = g.name := by
  cases e <;> rfl

theorem name_edited (g : TermGroup) (edits : List Edit) : (g.edited edits).name = g.name := by
  induction edits generalizing g with
  | nil => rfl
  | cons e edits ih => exact (ih (e.apply g)).trans (name_apply g e)

theorem terms_insertTerm (g : TermGroup) (name pattern : String) :
    (g.insertTerm name pattern).terms = place Term.name ⟨name, pattern⟩ g.terms :=
  insertInto_eq_place _ _

/-- What a group holds that edits have made of an empty one. -/
structure IsMadeBy (name : String) (edits : List Edit) (g : TermGroup) : Prop where
  eq_edited : g = (empty name).edited edits
  /-- Terms stand in the order in which they were first declared. -/
  names : g.terms.map Term.name = (edits.filterMap Edit.term?).eraseDups
  nodup : (g.terms.map Term.name).Nodup
  /-- The last pattern of a term counts. -/
  patterns : ∀ t ∈ g.terms,
    edits.reverse.find? (·.term? == some t.name) = some (.term t.name t.pattern)
  /-- The last directive counts. -/
  flags : g.flags = (edits.filterMap Edit.directive?).getLast?.join

theorem IsMadeBy.insertTerm (h : IsMadeBy name edits g) (n pattern : String) :
    IsMadeBy name (edits ++ [.term n pattern]) (g.insertTerm n pattern) := by
  have hterms := terms_insertTerm g n pattern
  refine ⟨?_, ?_, ?_, fun t ht => ?_, ?_⟩
  · rw [edited_concat, ← h.eq_edited]
    rfl
  · rw [hterms, map_place, List.filterMap_append, h.names]
    simp only [List.mem_eraseDups]
    exact (eraseDups_concat ..).symm
  · rw [hterms]
    exact nodup_map_place h.nodup
  · rw [hterms] at ht
    rw [find?_reverse_concat]
    rcases eq_or_mem_of_mem_place h.nodup ht with rfl | ⟨ht, hne⟩
    · exact if_pos (beq_self_eq_true _)
    · rw [if_neg (by simpa [Edit.term?] using Ne.symm hne)]
      exact h.patterns t ht
  · rw [List.filterMap_append, List.filterMap_cons_none rfl, List.filterMap_nil, List.append_nil]
    exact h.flags

theorem IsMadeBy.setFlags (h : IsMadeBy name edits g) (directive : Option Directive) :
    IsMadeBy name (edits ++ [.flags directive]) (g.setFlags directive) := by
  refine ⟨?_, ?_, h.nodup, fun t ht => ?_, ?_⟩
  · rw [edited_concat, ← h.eq_edited]
    rfl
  · rw [List.filterMap_append, List.filterMap_cons_none rfl, List.filterMap_nil, List.append_nil]
    exact h.names
  · rw [find?_reverse_concat, if_neg (by simp [Edit.term?])]
    exact h.patterns t ht
  · have hlast : [Edit.flags directive].filterMap Edit.directive? = [directive] := rfl
    rw [List.filterMap_append, hlast, List.getLast?_concat]
    rfl

theorem isMadeBy_edited (name : String) (edits : List Edit) :
    IsMadeBy name edits ((empty name).edited edits) := by
  induction edits using List.reverseRecOn with
  | nil => exact ⟨rfl, rfl, .nil, fun _ ht => absurd ht List.not_mem_nil, rfl⟩
  | append_singleton edits e ih =>
    rw [edited_concat]
    cases e with
    | term n pattern => exact ih.insertTerm n pattern
    | flags directive => exact ih.setFlags directive

/-- The edit `e` has made `g'` of the group `g`, and has changed nothing besides. -/
structure IsEditedBy (e : Edit) (g g' : TermGroup) : Prop where
  name : g'.name = g.name
  /-- No term leaves its place. -/
  places : g.terms.map Term.name <+: g'.terms.map Term.name
  others : ∀ (i : Nat) (t : Term), g.terms[i]? = some t → e.term? ≠ some t.name →
    g'.terms[i]? = some t
  term : ∀ n pattern, e = .term n pattern →
    g'.terms.find? (·.name == n) = some ⟨n, pattern⟩ ∧ g'.flags = g.flags
  flags : ∀ directive, e = .flags directive → g'.flags = directive ∧ g'.terms = g.terms

theorem isEditedBy_apply (g : TermGroup) (e : Edit) : IsEditedBy e g (e.apply g) := by
  cases e with
  | term n pattern =>
    have hterms : (Edit.apply (.term n pattern) g).terms = place Term.name ⟨n, pattern⟩ g.terms :=
      terms_insertTerm g n pattern
    refine ⟨rfl, ?_, fun i t hi ht => ?_, fun n' pattern' he => ?_, fun _ he => nomatch he⟩
    · rw [hterms]
      exact map_prefix_map_place
    · rw [hterms]
      exact getElem?_place hi fun heq => ht (congrArg some heq.symm)
    · obtain ⟨rfl, rfl⟩ := Edit.term.inj he
      rw [hterms, find?_place]
      exact ⟨if_pos rfl, rfl⟩
  | flags directive =>
    refine ⟨rfl, List.prefix_refl _, fun _ _ hi _ => hi, fun _ _ he => (nomatch he), fun _ he => ?_⟩
    obtain rfl := Edit.flags.inj he
    exact ⟨rfl, rfl⟩

end TermGroup

/-! ### Vocabularies -/

namespace Vocabulary

open TermGroup (Edit)

/-- A change of a vocabulary. -/
inductive Change
  /-- Inserts the group that the edits make of an empty one. -/
  | group (name : String) (edits : List Edit)
  /-- Edits a group in place, if it is there. -/
  | edit (name : String) (e : Edit)

namespace Change

def apply (c : Change) (v : Vocabulary) : Vocabulary :=
  match c with
  | .group name edits => v.insertGroup ((TermGroup.empty name).edited edits)
  | .edit name e => v.modifyGroup name e.apply

/-- The name of the group that is changed. -/
def target : Change → String
  | .group name _ => name
  | .edit name _ => name

/-- The name of the group that is inserted. -/
def inserted? : Change → Option String
  | .group name _ => some name
  | .edit _ _ => none

/-- The edits in place of the group of a name. -/
def editsOf (name : String) : Change → List Edit
  | .group _ _ => []
  | .edit n e => if n = name then [e] else []

end Change

/-- What changes make of a vocabulary. -/
def changed (v : Vocabulary) (history : List Change) : Vocabulary :=
  history.foldl (fun v c => c.apply v) v

variable {v : Vocabulary} {name : String} {g : TermGroup}

theorem changed_append (v : Vocabulary) (first others : List Change) :
    v.changed (first ++ others) = (v.changed first).changed others := List.foldl_append

theorem changed_concat (v : Vocabulary) (history : List Change) (c : Change) :
    v.changed (history ++ [c]) = c.apply (v.changed history) := List.foldl_concat ..

theorem groups_insertGroup (v : Vocabulary) (g : TermGroup) :
    (v.insertGroup g).groups = place TermGroup.name g v.groups := insertInto_eq_place _ _

theorem name_of_get? (h : v.get? name = some g) : g.name = name := by
  simpa using List.find?_some h

theorem get?_eq_none_iff : v.get? name = none ↔ name ∉ v.groups.map TermGroup.name := by
  simp [get?]

theorem get?_insertGroup (v : Vocabulary) (g : TermGroup) (name : String) :
    (v.insertGroup g).get? name = if g.name = name then some g else v.get? name := by
  unfold get?
  rw [groups_insertGroup, find?_place]

/-- Editing a group is inserting what has been made of it. -/
theorem apply_edit_of_get? (h : v.get? name = some g) (e : Edit) :
    Change.apply (.edit name e) v = v.insertGroup (e.apply g) := by
  simp only [Change.apply, modifyGroup, h]

theorem apply_edit_of_absent (h : v.get? name = none) (e : Edit) :
    Change.apply (.edit name e) v = v := by
  simp only [Change.apply, modifyGroup, h]

theorem get?_apply_group (v : Vocabulary) (n : String) (edits : List Edit) (name : String) :
    (Change.apply (.group n edits) v).get? name =
      if n = name then some ((TermGroup.empty n).edited edits) else v.get? name := by
  refine (get?_insertGroup ..).trans ?_
  rw [TermGroup.name_edited]
  rfl

theorem get?_apply_edit (v : Vocabulary) (n : String) (e : Edit) (name : String) :
    (Change.apply (.edit n e) v).get? name =
      (v.get? name).map (·.edited (Change.editsOf name (.edit n e))) := by
  cases h : v.get? n with
  | none =>
    rw [apply_edit_of_absent h]
    by_cases hn : n = name
    · rw [← hn, h, Option.map_none]
    · simp [Change.editsOf, hn, TermGroup.edited]
  | some g =>
    rw [apply_edit_of_get? h, get?_insertGroup, TermGroup.name_apply, name_of_get? h]
    by_cases hn : n = name
    · rw [if_pos hn, ← hn, h]
      simp [Change.editsOf, TermGroup.edited]
    · simp [Change.editsOf, hn, TermGroup.edited]

/-- The names of the groups behind a change. -/
theorem names_apply (v : Vocabulary) (c : Change) :
    (c.apply v).groups.map TermGroup.name = match c.inserted? with
      | some n => if n ∈ v.groups.map TermGroup.name then v.groups.map TermGroup.name
        else v.groups.map TermGroup.name ++ [n]
      | none => v.groups.map TermGroup.name := by
  cases c with
  | group n edits =>
    have hname : ((TermGroup.empty n).edited edits).name = n := TermGroup.name_edited _ _
    refine (congrArg (List.map TermGroup.name) (groups_insertGroup ..)).trans ?_
    rw [map_place, hname]
    rfl
  | edit n e =>
    cases h : v.get? n with
    | none => rw [apply_edit_of_absent h]; rfl
    | some g =>
      have hmem : g.name ∈ v.groups.map TermGroup.name :=
        List.mem_map_of_mem (List.mem_of_find?_eq_some h)
      rw [apply_edit_of_get? h, groups_insertGroup, map_place, TermGroup.name_apply, if_pos hmem]
      rfl

/-- What a vocabulary holds that a history of changes has led to. -/
structure Records (history : List Change) (v : Vocabulary) : Prop where
  /-- Groups stand in the order in which they were first inserted. -/
  names : v.groups.map TermGroup.name = (history.filterMap Change.inserted?).eraseDups
  nodup : (v.groups.map TermGroup.name).Nodup
  /-- A group is made by its last insertion and the edits behind it. -/
  content : ∀ before name edits after, history = before ++ .group name edits :: after →
    (∀ c ∈ after, c.inserted? ≠ some name) →
    ∃ g, v.get? name = some g ∧
      TermGroup.IsMadeBy name (edits ++ after.flatMap (·.editsOf name)) g
  absent : ∀ name, (∀ c ∈ history, c.inserted? ≠ some name) → v.get? name = none

theorem names_changed (history : List Change) :
    (Vocabulary.empty.changed history).groups.map TermGroup.name =
      (history.filterMap Change.inserted?).eraseDups := by
  induction history using List.reverseRecOn with
  | nil => rfl
  | append_singleton history c ih =>
    rw [changed_concat, names_apply, ih, List.filterMap_append]
    cases c with
    | group n edits =>
      simp only [List.mem_eraseDups]
      exact (eraseDups_concat ..).symm
    | edit n e =>
      rw [List.filterMap_cons_none rfl, List.filterMap_nil, List.append_nil]
      rfl

theorem nodup_changed (history : List Change) :
    ((Vocabulary.empty.changed history).groups.map TermGroup.name).Nodup := by
  induction history using List.reverseRecOn with
  | nil => exact .nil
  | append_singleton history c ih =>
    rw [changed_concat, names_apply]
    split
    · split
      · exact ih
      · rename_i hnew
        exact ih.append (List.nodup_singleton _) (by simpa using hnew)
    · exact ih

/-- As long as a group is not inserted again, it is edited only. -/
theorem get?_changed {after : List Change} (h : v.get? name = some g)
    (hafter : ∀ c ∈ after, c.inserted? ≠ some name) :
    (v.changed after).get? name = some (g.edited (after.flatMap (·.editsOf name))) := by
  induction after generalizing v g with
  | nil => exact h
  | cons c after ih =>
    obtain ⟨hc, hafter⟩ := List.forall_mem_cons.mp hafter
    have hstep : (c.apply v).get? name = some (g.edited (c.editsOf name)) := by
      cases c with
      | group n edits =>
        rw [get?_apply_group, if_neg fun hn => hc (congrArg some hn)]
        exact h
      | edit n e =>
        rw [get?_apply_edit, h]
        rfl
    rw [List.flatMap_cons, TermGroup.edited_append]
    exact ih hstep hafter

theorem records_changed (history : List Change) :
    Records history (Vocabulary.empty.changed history) := by
  refine ⟨names_changed history, nodup_changed history, ?_, fun name h => ?_⟩
  · rintro before name edits after rfl hafter
    have hinserted := get?_apply_group (Vocabulary.empty.changed before) name edits name
    rw [if_pos rfl] at hinserted
    refine ⟨_, ?_, TermGroup.isMadeBy_edited name _⟩
    rw [changed_append, TermGroup.edited_append]
    show ((Change.apply (.group name edits) _).changed after).get? name = _
    exact get?_changed hinserted hafter
  · rw [get?_eq_none_iff, names_changed, List.mem_eraseDups, List.mem_filterMap]
    rintro ⟨c, hc, hname⟩
    exact h c hc hname

/-- The change `c` has made `v'` of the vocabulary `v`, and has changed nothing besides. -/
structure IsChangedBy (c : Change) (v v' : Vocabulary) : Prop where
  /-- No group leaves its place. -/
  places : v.groups.map TermGroup.name <+: v'.groups.map TermGroup.name
  others : ∀ (i : Nat) (g : TermGroup), v.groups[i]? = some g → g.name ≠ c.target →
    v'.groups[i]? = some g
  get : ∀ name, name ≠ c.target → v'.get? name = v.get? name
  group : ∀ name edits, c = .group name edits →
    v'.get? name = some ((TermGroup.empty name).edited edits)
  edit : ∀ name e, c = .edit name e →
    v'.groups.map TermGroup.name = v.groups.map TermGroup.name ∧
      ∀ (i : Nat) (g : TermGroup), v.groups[i]? = some g → g.name = name →
        ∃ g', v'.groups[i]? = some g' ∧ v'.get? name = some g' ∧ TermGroup.IsEditedBy e g g'
  absent : ∀ name e, c = .edit name e → v.get? name = none → v' = v

theorem get?_of_getElem? (hnames : (v.groups.map TermGroup.name).Nodup) {i : Nat}
    (hg : v.groups[i]? = some g) : v.get? g.name = some g := by
  have hmem := List.mem_of_getElem? hg
  cases h : v.get? g.name with
  | none => exact absurd (List.mem_map_of_mem hmem) (get?_eq_none_iff.mp h)
  | some g' =>
    have hname := name_of_get? h
    exact congrArg some
      (List.inj_on_of_nodup_map hnames (List.mem_of_find?_eq_some h) hmem hname)

theorem isChangedBy_apply (hnames : (v.groups.map TermGroup.name).Nodup) (c : Change) :
    IsChangedBy c v (c.apply v) := by
  refine ⟨?_, fun i g hi hg => ?_, fun name hname => ?_, ?_, ?_, ?_⟩
  · rw [names_apply]
    split
    · split
      · exact List.prefix_refl _
      · exact List.prefix_append _ _
    · exact List.prefix_refl _
  · cases c with
    | group n edits =>
      show (v.insertGroup _).groups[i]? = some g
      rw [groups_insertGroup]
      exact getElem?_place hi (by rwa [TermGroup.name_edited])
    | edit n e =>
      cases h : v.get? n with
      | none => rwa [apply_edit_of_absent h]
      | some g' =>
        rw [apply_edit_of_get? h, groups_insertGroup]
        exact getElem?_place hi (by rwa [TermGroup.name_apply, name_of_get? h])
  · cases c with
    | group n edits =>
      rw [get?_apply_group]
      exact if_neg (Ne.symm hname)
    | edit n e =>
      have hedits : Change.editsOf name (.edit n e) = [] := if_neg (Ne.symm hname)
      rw [get?_apply_edit, hedits]
      exact Option.map_id'
  · rintro name edits rfl
    rw [get?_apply_group, if_pos rfl]
  · rintro name e rfl
    refine ⟨names_apply v (.edit name e), fun i g hi hg => ?_⟩
    have hget := get?_of_getElem? hnames hi
    rw [hg] at hget
    refine ⟨e.apply g, ?_, ?_, TermGroup.isEditedBy_apply g e⟩
    · rw [apply_edit_of_get? hget, groups_insertGroup]
      exact getElem?_place_self hnames hi (TermGroup.name_apply g e).symm
    · rw [apply_edit_of_get? hget, get?_insertGroup, TermGroup.name_apply, if_pos hg]
  · rintro name e rfl habsent
    exact apply_edit_of_absent habsent e

/-- Whatever the history of a vocabulary is, the vocabulary holds what the history says, and one
more change touches only what it names. -/
theorem recordsHistory (history : List Change) :
    Records history (Vocabulary.empty.changed history) ∧
      ∀ c, IsChangedBy c (Vocabulary.empty.changed history)
        (Vocabulary.empty.changed (history ++ [c])) := by
  refine ⟨records_changed history, fun c => ?_⟩
  rw [changed_concat]
  exact isChangedBy_apply (nodup_changed history) c

/-- A group that is inserted again keeps its place and loses its terms; an edit of a group that is
not there is lost. -/
example :
    (Vocabulary.empty.changed [.group "a" [.term "x" "1"], .edit "b" (.term "z" "0"), .group "b" [],
      .edit "a" (.term "y" "2"), .edit "b" (.term "z" "3"), .group "a" [.term "y" "4"],
      .edit "a" (.term "x" "5"), .edit "a" (.term "y" "6")]).groups.map
        (fun g => (g.name, g.terms)) =
      [("a", [⟨"y", "6"⟩, ⟨"x", "5"⟩]), ("b", [⟨"z", "3"⟩])] := by
  decide

end Vocabulary
end Gazetteer
