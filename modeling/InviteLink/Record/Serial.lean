import InviteLink.Log.Traced
import InviteLink.Text.Scalar

set_option autoImplicit false

/-! # Records as octets

A record is written as the link message with the inner message of its kind. The kind itself is
left out where the reader learns it otherwise; then it is given again on reading, and overrides
whatever kind the message states. Names are written in UTF-8, so a name that holds surrogates keeps
its record from being written. -/

namespace InviteLink

open Wire

/-! ## Writing -/

/-- The message of a descriptor. -/
def Descriptor.toMessage (d : Descriptor) : DescriptorMessage where
  publicKey := d.publicKey
  secret := d.secret
  secretSignature := d.secretSignature
  groupType := d.groupType.number
  signingKey := d.signingKey

/-- The message of a record under a name of characters, with its kind stated or left out. -/
def Record.messageNamed (includeKind : Bool) (r : Record) (name : ScalarText) : InviteMessage :=
  let kind : Int := if includeKind then r.kind.number else 0
  match r with
  | .contact c => { kind, identity := some ⟨c.seed, c.accountKey, name⟩ }
  | .group g => { kind, group := some ⟨g.descriptor.map Descriptor.toMessage, name⟩ }

/-- The message of a record. -/
def Record.toMessage (includeKind : Bool) (r : Record) : Except SurrogateFault InviteMessage :=
  r.displayName.scalars.map (r.messageNamed includeKind)

/-- The octets of a record. -/
def Record.toOctets (includeKind : Bool) (r : Record) : Except SurrogateFault Bytes :=
  (r.toMessage includeKind).map InviteMessage.write

/-! ## Reading -/

/-- The descriptor that a message states; its group type must be a known one. -/
def Descriptor.ofMessage (m : DescriptorMessage) : Except Refusal Descriptor :=
  match GroupType.ofNumber? m.groupType with
  | none => .error (.unknownGroupType m.groupType)
  | some t => .ok ⟨m.publicKey, m.secret, m.secretSignature, t, m.signingKey⟩

/-- The contact that a message states; without an identity everything in it is empty. -/
def Contact.ofMessage (m : InviteMessage) : Contact :=
  let identity := m.identity.getD {}
  ⟨identity.accountKey, identity.seed, identity.displayName.map .char⟩

/-- The group that a message states; without one there is no descriptor and no name. -/
def GroupInvite.ofMessage (m : InviteMessage) : Except Refusal GroupInvite :=
  let group := m.group.getD {}
  match group.descriptor with
  | none => .ok ⟨none, group.displayName.map .char⟩
  | some d => (Descriptor.ofMessage d).map fun d => ⟨some d, group.displayName.map .char⟩

/-- The record that a message states under kind number `n`. -/
def Record.ofMessage (n : Int) (m : InviteMessage) : Except Refusal Record :=
  match Kind.ofNumber? n with
  | some .contact => .ok (.contact (Contact.ofMessage m))
  | some .group => (GroupInvite.ofMessage m).map .group
  | none => .error (if n = 0 then .noKind else .unknownKind n)

/-- The record that octets hold; `kind`, if given, overrides the kind that they state. -/
def Record.ofOctets (kind : Option Int) (bs : Bytes) : Traced Refusal Record :=
  match InviteMessage.read bs with
  | .error f => do
    Traced.log (.blobRejected bs.length f)
    Traced.fail (.malformedBlob f)
  | .ok m => Traced.ofExcept (Record.ofMessage (kind.getD m.kind) m)

end InviteLink
