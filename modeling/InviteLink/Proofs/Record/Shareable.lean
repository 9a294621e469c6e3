import InviteLink.Record.Parts
import InviteLink.Record.Shareable
import InviteLink.Proofs.Log.Traced
import Mathlib.Tactic.SplitIfs

set_option autoImplicit false

/-! # What may be shared, as a condition

The checks that a record passes before it is shared are the condition `Record.IsShareable` on its
fields (`requireShareable_ok_iff`), and whatever passes them has all the parts that links are made
of (`parts?_of_isShareable`). Of a record that does not pass them at most the cause is logged
(`notices_requireShareable`). -/

namespace InviteLink.Record

/-- A contact with both keys, or a group with a descriptor of a group of many members. -/
def IsShareable : Record → Prop
  | .contact c => c.accountKey ≠ [] ∧ c.seed ≠ []
  | .group g => ∃ d, g.descriptor = some d ∧ d.groupType = .multiMember

theorem requireShareable_ok_iff {r : Record} :
    r.requireShareable.outcome = .ok () ↔ r.IsShareable := by
  cases r with
  | contact c =>
      simp only [requireShareable, Contact.requireShareable, IsShareable]
      split_ifs with hkey hseed
      · simp [hkey]
      · simp [hseed]
      · simp [hkey, hseed]
  | group g =>
      obtain ⟨descriptor, name⟩ := g
      cases descriptor with
      | none => simp [requireShareable, GroupInvite.requireShareable, IsShareable]
      | some d =>
          simp only [requireShareable, GroupInvite.requireShareable, IsShareable]
          split_ifs with htype
          · simp [htype]
          · simp [htype, Traced.outcome_bind, Except.bind, Traced.log]

/-- The check logs that a group is of a type that is not shared, and nothing else. -/
theorem notices_requireShareable (r : Record) (size : Nat) : r.requireShareable.Notices size := by
  cases r with
  | contact c =>
      rw [requireShareable, Contact.requireShareable]
      split_ifs
      · exact Traced.notices_fail rfl
      · exact Traced.notices_fail rfl
      · exact Traced.notices_pure ()
  | group g =>
      rw [requireShareable, GroupInvite.requireShareable]
      split
      · exact Traced.notices_fail rfl
      · split_ifs
        · exact Traced.notices_pure ()
        · exact Traced.notices_log_fail rfl

theorem parts?_of_isShareable {r : Record} (h : r.IsShareable) :
    r.parts? = some ⟨r.withDisplayName [], r, readablePairs r.displayName⟩ := by
  cases r with
  | contact c => rfl
  | group g =>
      obtain ⟨descriptor, name⟩ := g
      obtain ⟨d, rfl, -⟩ := h
      rfl

/-- A record without its name is the record again once it adopts the name. -/
theorem adoptName_withDisplayName (r : Record) :
    (r.withDisplayName []).adoptName r.displayName = r := by
  cases r <;> rfl

@[simp] theorem kind_withDisplayName (name : Text) (r : Record) :
    (r.withDisplayName name).kind = r.kind := by
  cases r <;> rfl

end InviteLink.Record
