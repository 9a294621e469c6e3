import InviteLink.Log.Traced

set_option autoImplicit false

/-! # What may be shared

A contact is shared with both of its keys, a group with a descriptor of a group of many members.
Anything else is refused, and a refused group type is logged. -/

namespace InviteLink

/-- Refuses a contact that lacks a key. -/
def Contact.requireShareable (c : Contact) : Traced Refusal Unit :=
  if c.accountKey = [] then Traced.fail .noAccountKey
  else if c.seed = [] then Traced.fail .noSeed
  else pure ()

/-- Refuses a group that lacks its descriptor or is not one of many members. -/
def GroupInvite.requireShareable (g : GroupInvite) : Traced Refusal Unit :=
  match g.descriptor with
  | none => Traced.fail .noDescriptor
  | some d =>
    if d.groupType = .multiMember then pure ()
    else do
      Traced.log (.groupRefused d.groupType)
      Traced.fail (.unshareable d.groupType)

/-- Refuses a record that lacks something it needs to be shared. -/
def Record.requireShareable : Record → Traced Refusal Unit
  | .contact c => c.requireShareable
  | .group g => g.requireShareable

end InviteLink
