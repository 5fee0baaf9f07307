import Gazetteer.Proofs.Entity.Written
import Gazetteer.Proofs.Report.Entities

/-! Untyped values.

An untyped value is converted exactly if an entity is written in it, as an object or as an array,
and the span of the entity covers its text (`NamedEntity.convertsExactly`). Its offsets are words as
the integers of every value are. -/
namespace Gazetteer

/-! ### Values that are words -/

namespace Json

mutual
/-- The integers in the value are words. -/
def HoldsWords : Json → Prop
  | .int n => IsWord n
  | .array items => ItemsHoldWords items
  | .object members => MembersHoldWords members
  | _ => True

def ItemsHoldWords : List Json → Prop
  | [] => True
  | v :: items => v.HoldsWords ∧ ItemsHoldWords items

def MembersHoldWords : List (String × Json) → Prop
  | [] => True
  | (_, v) :: members => v.HoldsWords ∧ MembersHoldWords members
end

theorem MembersHoldWords.member {members : List (String × Json)} {name : String} {v : Json}
    (h : MembersHoldWords members) (hv : member? name (.object members) = some v) :
    v.HoldsWords := by
  induction members with
  | nil => exact absurd hv (by simp [member?])
  | cons m members ih =>
    obtain ⟨key, w⟩ := m
    rw [member?_cons, Option.or_eq_some_iff] at hv
    rcases hv with hv | ⟨-, hv⟩
    · exact ih h.2 hv
    · split at hv
      · exact Option.some.inj hv ▸ h.1
      · exact absurd hv (by simp)

end Json

namespace NamedEntity
variable {e : NamedEntity}

/-! ### Conversion -/

example : ofUntyped (.array []) =
    .error "array (invalid length 0, expected struct RawEntity with 4 elements)" := by
  rfl

end NamedEntity
end Gazetteer
