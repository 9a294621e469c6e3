import InviteLink.Proofs.Record.Serial

set_option autoImplicit false

/-! # Records of other writers

The octets of a record are a contract with everyone who writes such records: each value has a
field number, and that is all. A writer may put the fields in any order, leave empty values out or
write them, and add fields of its own at every level (`Writes`). The schema of a record, by its
numbers, is the one of its message (`Record.slots_messageNamed`), so whatever is written by it is
read as the record (`Record.read_from_any_writer`). Names are in UTF-8, so a record has a schema
only with the characters of its name. -/

namespace InviteLink

open Wire

/-! ## The schema -/

/-- The fields of a contact, whose name has the characters `name`. -/
def Contact.slots (c : Contact) (name : ScalarText) : List Slot :=
  [bytesSlot 1 c.seed, bytesSlot 2 c.accountKey, textSlot 3 name]

/-- The fields of a descriptor. -/
def Descriptor.slots (d : Descriptor) : List Slot :=
  [bytesSlot 1 d.publicKey, bytesSlot 2 d.secret, bytesSlot 3 d.secretSignature,
    numberSlot 4 d.groupType.number, bytesSlot 5 d.signingKey]

/-- The fields of a group, whose name has the characters `name`. -/
def GroupInvite.slots (g : GroupInvite) (name : ScalarText) : List Slot :=
  [messageSlot 1 (g.descriptor.map Descriptor.slots), textSlot 2 name]

/-- The fields of a record, whose name has the characters `name`: the number of its kind, and under
    the number of its variant all that the record holds. -/
def Record.slots (r : Record) (name : ScalarText) : List Slot :=
  match r with
  | .contact c => [numberSlot 1 1, messageSlot 2 (some (c.slots name)), messageSlot 3 none]
  | .group g => [numberSlot 1 2, messageSlot 2 none, messageSlot 3 (some (g.slots name))]

theorem Record.slots_messageNamed (r : Record) (name : ScalarText) :
    (r.messageNamed true name).slots = r.slots name := by
  cases r with
  | contact c => rfl
  | group g =>
      obtain ⟨descriptor, name⟩ := g
      cases descriptor <;> rfl

/-! ## Reading -/

theorem Record.ofOctets_of_writes {r : Record} {name : ScalarText} {bs : Bytes}
    (hname : r.displayName = name.map .char) (h : Writes (r.slots name) bs) :
    Record.ofOctets none bs = pure r := by
  rw [← r.slots_messageNamed] at h
  have hkind : (r.messageNamed true name).kind = r.kind.number := by cases r <;> rfl
  rw [ofOctets, InviteMessage.read_of_writes (r.fits_messageNamed true name) h]
  show Traced.ofExcept (ofMessage (r.messageNamed true name).kind _) = _
  rw [hkind, ofMessage_messageNamed, ← hname, withDisplayName_self]
  rfl

/-- Every record is read from whatever octets state its fields, in any order at each level, with
    empty values written or left out and with any unknown fields in between. What this library
    writes are such octets. -/
theorem Record.read_from_any_writer (r : Record) (name : ScalarText)
    (hname : r.displayName = name.map .char) :
    (∃ bs, r.toOctets true = .ok bs ∧ Writes (r.slots name) bs)
      ∧ ∀ bs, Writes (r.slots name) bs → (Record.ofOctets none bs).outcome = .ok r := by
  constructor
  · refine ⟨_, toOctets_eq_ok_iff.2 ⟨name, hname, rfl⟩, ?_⟩
    rw [← r.slots_messageNamed]
    exact InviteMessage.writes_write _
  · intro bs h
    rw [ofOctets_of_writes hname h, Traced.outcome_pure]

/-! A group in falling order: its secret is written though it is empty, its signature is left out,
and there is an unknown field at each level. -/

/-- The octets of its descriptor, with an unknown field of 64 bits. -/
def fallingDescriptor : Bytes :=
  writeChunk 5 [2] ++ ((writeTag 6 1 ++ [1, 2, 3, 4, 5, 6, 7, 8]) ++ (writeVarint 4 3
    ++ (writeChunk 2 [] ++ writeChunk 1 [1])))

/-- The octets of the group, with an unknown field of 32 bits. -/
def fallingGroup : Bytes :=
  (writeTag 3 5 ++ [1, 2, 3, 4]) ++ (writeChunk 2 [0x41] ++ writeChunk 1 fallingDescriptor)

/-- All its octets, with an unknown number and an unknown chunk. -/
def fallingOctets : Bytes :=
  writeVarint 15 300 ++ (writeChunk 3 fallingGroup ++ (writeChunk 4 [0xFF] ++ writeVarint 1 2))

theorem Record.read_from_any_writer_falling :
    Writes ((Record.group ⟨some ⟨[1], [], [], .multiMember, [2]⟩, "A".points⟩).slots ['A'])
        fallingOctets
      ∧ (Record.ofOctets none fallingOctets).outcome
        = .ok (.group ⟨some ⟨[1], [], [], .multiMember, [2]⟩, "A".points⟩) := by
  have hdescriptor : Writes (Descriptor.slots ⟨[1], [], [], .multiMember, [2]⟩)
      fallingDescriptor :=
    ⟨[⟨1, .chunk [1]⟩, ⟨2, .chunk []⟩, ⟨4, .varint 3⟩, ⟨5, .chunk [2]⟩],
      [⟨6, .fixed64 [1, 2, 3, 4, 5, 6, 7, 8]⟩],
      [⟨5, .chunk [2]⟩, ⟨6, .fixed64 [1, 2, 3, 4, 5, 6, 7, 8]⟩, ⟨4, .varint 3⟩, ⟨2, .chunk []⟩,
        ⟨1, .chunk [1]⟩],
      .put rfl (.put rfl (.skip rfl (.put rfl (.put rfl .nil)))), by decide, by decide,
      .cons (isForm_writeChunk (by decide) (by decide) _) <|
      .cons (.fixed64 (isTag_writeTag (by decide) (by decide) (by decide)) rfl) <|
      .cons (isForm_writeVarint (by decide) (by decide) (by decide)) <|
      .cons (isForm_writeChunk (by decide) (by decide) _)
        (isForm_writeChunk (by decide) (by decide) _).areForms⟩
  have hgroup : Writes (GroupInvite.slots ⟨some ⟨[1], [], [], .multiMember, [2]⟩, "A".points⟩ ['A'])
      fallingGroup :=
    ⟨[⟨1, .chunk fallingDescriptor⟩, ⟨2, .chunk [0x41]⟩], [⟨3, .fixed32 [1, 2, 3, 4]⟩],
      [⟨3, .fixed32 [1, 2, 3, 4]⟩, ⟨2, .chunk [0x41]⟩, ⟨1, .chunk fallingDescriptor⟩],
      .put ⟨_, _, rfl, hdescriptor, rfl⟩ (.put rfl .nil), by decide, by decide +kernel,
      .cons (.fixed32 (isTag_writeTag (by decide) (by decide) (by decide)) rfl) <|
      .cons (isForm_writeChunk (by decide) (by decide) _)
        (isForm_writeChunk (by decide) (by decide) _).areForms⟩
  have hrecord :
      Writes ((Record.group ⟨some ⟨[1], [], [], .multiMember, [2]⟩, "A".points⟩).slots ['A'])
        fallingOctets :=
    ⟨[⟨1, .varint 2⟩, ⟨3, .chunk fallingGroup⟩], [⟨15, .varint 300⟩, ⟨4, .chunk [0xFF]⟩],
      [⟨15, .varint 300⟩, ⟨3, .chunk fallingGroup⟩, ⟨4, .chunk [0xFF]⟩, ⟨1, .varint 2⟩],
      .put rfl (.skip rfl (.put ⟨_, _, rfl, hgroup, rfl⟩ .nil)), by decide, by decide +kernel,
      .cons (isForm_writeVarint (by decide) (by decide) (by decide)) <|
      .cons (isForm_writeChunk (by decide) (by decide) _) <|
      .cons (isForm_writeChunk (by decide) (by decide) _)
        (isForm_writeVarint (by decide) (by decide) (by decide)).areForms⟩
  exact ⟨hrecord, (Record.read_from_any_writer _ ['A'] rfl).2 _ hrecord⟩

end InviteLink
