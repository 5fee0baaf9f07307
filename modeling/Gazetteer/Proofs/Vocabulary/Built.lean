import Gazetteer.Proofs.Result
import Gazetteer.Proofs.Vocabulary.History
import Gazetteer.Vocabulary.Format

/-! Vocabularies that can be built.

A vocabulary comes about by adding groups to an empty one, whether by hand or from the text of a
configuration. A group of a name that is there takes its place, so no two groups share a name
(`Vocabulary.IsBuilt.nodup`). -/
namespace Gazetteer.Vocabulary

inductive IsBuilt : Vocabulary → Prop
  | empty : IsBuilt .empty
  | insert {v : Vocabulary} (h : IsBuilt v) (g : TermGroup) : IsBuilt (v.insertGroup g)

variable {v w : Vocabulary}

/-- The groups of a vocabulary that was built have different names. -/
theorem IsBuilt.nodup (h : v.IsBuilt) : (v.groups.map TermGroup.name).Nodup := by
  induction h with
  | empty => exact .nil
  | @insert v _ g ih =>
    show ((insertInto g v.groups).map TermGroup.name).Nodup
    rw [insertInto_eq_place]
    exact nodup_map_place ih

theorem IsBuilt.modifyGroup (h : v.IsBuilt) (name : String) (change : TermGroup → TermGroup) :
    (v.modifyGroup name change).IsBuilt := by
  unfold Vocabulary.modifyGroup
  split
  · exact h
  · exact .insert h _

/-- Whatever changes an empty vocabulary goes through, it has been built. -/
theorem isBuilt_changed (history : List Change) : (Vocabulary.empty.changed history).IsBuilt := by
  induction history using List.reverseRecOn with
  | nil => exact .empty
  | append_singleton history c ih =>
    rw [changed_concat]
    cases c with
    | group name edits => exact .insert ih _
    | edit name e => exact ih.modifyGroup name e.apply

/-- What is read from the text of a configuration has been built. -/
theorem isBuilt_addGroups {entries : List (Tree × Tree)} (hv : v.IsBuilt)
    (h : addGroups v entries = .ok w) : w.IsBuilt := by
  induction entries generalizing v with
  | nil =>
    obtain rfl := Except.ok.inj h
    exact hv
  | cons entry entries ih =>
    obtain ⟨key, value⟩ := entry
    obtain ⟨v', hadd, h⟩ := exists_of_bind_eq_ok h
    refine ih ?_ h
    obtain ⟨name, -, hadd⟩ := exists_of_bind_eq_ok hadd
    obtain ⟨g, -, hadd⟩ := exists_of_bind_eq_ok hadd
    obtain rfl := Except.ok.inj hadd
    exact .insert hv g

theorem isBuilt_ofText {format : Format} {text : String} {path : Option String}
    (h : ofText format text path = .ok v) : v.IsBuilt := by
  unfold ofText at h
  split at h
  · unfold ofTree at h
    split at h
    · exact isBuilt_addGroups .empty h
    · exact absurd h (by simp)
  · exact absurd h (by simp)

end Gazetteer.Vocabulary
