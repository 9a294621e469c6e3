import InviteLink.Proofs.Wire.Slot

set_option autoImplicit false

/-! # Messages are read from any writer

The slots of each message are the fields of its schema. Reading a field gives the message one more
of its values, so each message is accounted for by the numbers of its fields, and all writers of it
are read as the message (`InviteMessage.read_of_writes`). What this library writes is one way to
write it, in rising order and with empty values left out, so it is read back
(`InviteMessage.read_write`).

The only messages that are not read back are those whose numbers do not fit in 32 bits
(`InviteMessage.Fits`). -/

namespace InviteLink.Wire

/-! ## Numbers and texts -/

/-- Whether a number is one of 32 bits with a sign. -/
def FitsSigned32 (n : Int) : Prop := -0x80000000 ≤ n ∧ n < 0x80000000

/-- The number that was written is recovered from its 64-bit complement. -/
theorem signed32_emod {n : Int} (hn : FitsSigned32 n) :
    signed32 (n % 0x10000000000000000).toNat = n := by
  obtain ⟨hlow, hhigh⟩ := hn
  rw [signed32]
  split_ifs <;> simp only [Int.ofNat_eq_natCast] <;> omega

theorem getText_encode (t : ScalarText) : getText (Utf8.encode t) = .ok t := by
  rw [getText, Utf8.decode_encode]

/-- A value that is not accounted for is the empty one. -/
theorem kept_of_left_out {α : Type} {kept : Bool} {value empty : α}
    (h : kept = false → value = empty) : (if kept then value else empty) = value := by
  cases kept with
  | false => exact (h rfl).symm
  | true => rfl

/-! ## Identities -/

namespace IdentityMessage

/-- The fields of an identity. -/
def slots (m : IdentityMessage) : List Slot :=
  [bytesSlot 1 m.seed, bytesSlot 2 m.accountKey, textSlot 3 m.displayName]

/-- The part of an identity that some numbers account for. -/
def part (m : IdentityMessage) (seen : Nat → Bool) : IdentityMessage where
  seed := if seen 1 then m.seed else []
  accountKey := if seen 2 then m.accountKey else []
  displayName := if seen 3 then m.displayName else []

theorem apply_other (m : IdentityMessage) {t : Token} (h1 : t.number ≠ 1) (h2 : t.number ≠ 2)
    (h3 : t.number ≠ 3) : m.apply t = .ok m := by
  unfold apply
  split <;> simp_all

theorem accounts (m : IdentityMessage) : Accounts apply m.slots {} m m.part where
  nodup := (by decide : [1, 2, 3].Nodup)
  nothing := rfl
  step := by
    rintro seen ⟨number, p⟩ h
    simp only [slots, List.forall_mem_cons] at h
    obtain ⟨hseed, hkey, hname, -⟩ := h
    by_cases h1 : number = 1
    · obtain ⟨rfl, -⟩ := hseed h1
      simp [h1, apply, part]
    by_cases h2 : number = 2
    · obtain ⟨rfl, -⟩ := hkey h2
      simp [h2, apply, part]
    by_cases h3 : number = 3
    · obtain ⟨rfl, -⟩ := hname h3
      simp [h3, apply, part, getText_encode, Except.map]
    · rw [apply_other _ h1 h2 h3]
      simp [part, h1, h2, h3]
  everything := by
    intro seen h
    simp only [slots, List.forall_mem_cons] at h
    obtain ⟨hseed, hkey, hname, -⟩ := h
    have hseed' : (if seen 1 then m.seed else []) = m.seed := kept_of_left_out hseed
    have hkey' : (if seen 2 then m.accountKey else []) = m.accountKey := kept_of_left_out hkey
    have hname' : (if seen 3 then m.displayName else []) = m.displayName :=
      kept_of_left_out fun hleft => optional_textSlot_iff.1 (hname hleft)
    rw [part, hseed', hkey', hname']

/-- What is written is one way to write an identity. -/
theorem writes_write (m : IdentityMessage) : Writes m.slots m.write := by
  have hputs : List.Forall₂ Slot.PutAs m.slots
      [putBytes 1 m.seed, putBytes 2 m.accountKey, putText 3 m.displayName] :=
    .cons (putAs_putBytes (by decide) (by decide) _) <|
    .cons (putAs_putBytes (by decide) (by decide) _) <|
    .cons (putAs_putText (by decide) (by decide) _) .nil
  simpa [write] using writes_of_putAs hputs

end IdentityMessage

/-! ## Descriptors -/

namespace DescriptorMessage

/-- The fields of a descriptor. -/
def slots (m : DescriptorMessage) : List Slot :=
  [bytesSlot 1 m.publicKey, bytesSlot 2 m.secret, bytesSlot 3 m.secretSignature,
    numberSlot 4 m.groupType, bytesSlot 5 m.signingKey]

/-- The part of a descriptor that some numbers account for. -/
def part (m : DescriptorMessage) (seen : Nat → Bool) : DescriptorMessage where
  publicKey := if seen 1 then m.publicKey else []
  secret := if seen 2 then m.secret else []
  secretSignature := if seen 3 then m.secretSignature else []
  groupType := if seen 4 then m.groupType else 0
  signingKey := if seen 5 then m.signingKey else []

theorem apply_other (m : DescriptorMessage) {t : Token} (h1 : t.number ≠ 1) (h2 : t.number ≠ 2)
    (h3 : t.number ≠ 3) (h4 : t.number ≠ 4) (h5 : t.number ≠ 5) : m.apply t = .ok m := by
  unfold apply
  split <;> simp_all

theorem accounts {m : DescriptorMessage} (hm : FitsSigned32 m.groupType) :
    Accounts apply m.slots {} m m.part where
  nodup := (by decide : [1, 2, 3, 4, 5].Nodup)
  nothing := rfl
  step := by
    rintro seen ⟨number, p⟩ h
    simp only [slots, List.forall_mem_cons] at h
    obtain ⟨hpublic, hsecret, hsignature, htype, hsigning, -⟩ := h
    by_cases h1 : number = 1
    · obtain ⟨rfl, -⟩ := hpublic h1
      simp [h1, apply, part]
    by_cases h2 : number = 2
    · obtain ⟨rfl, -⟩ := hsecret h2
      simp [h2, apply, part]
    by_cases h3 : number = 3
    · obtain ⟨rfl, -⟩ := hsignature h3
      simp [h3, apply, part]
    by_cases h4 : number = 4
    · obtain ⟨rfl, -⟩ := htype h4
      simp [h4, apply, part, signed32_emod hm]
    by_cases h5 : number = 5
    · obtain ⟨rfl, -⟩ := hsigning h5
      simp [h5, apply, part]
    · rw [apply_other _ h1 h2 h3 h4 h5]
      simp [part, h1, h2, h3, h4, h5]
  everything := by
    intro seen h
    simp only [slots, List.forall_mem_cons] at h
    obtain ⟨hpublic, hsecret, hsignature, htype, hsigning, -⟩ := h
    have hpublic' : (if seen 1 then m.publicKey else []) = m.publicKey := kept_of_left_out hpublic
    have hsecret' : (if seen 2 then m.secret else []) = m.secret := kept_of_left_out hsecret
    have hsignature' : (if seen 3 then m.secretSignature else []) = m.secretSignature :=
      kept_of_left_out hsignature
    have htype' : (if seen 4 then m.groupType else 0) = m.groupType := kept_of_left_out htype
    have hsigning' : (if seen 5 then m.signingKey else []) = m.signingKey :=
      kept_of_left_out hsigning
    rw [part, hpublic', hsecret', hsignature', htype', hsigning']

/-- What is written is one way to write a descriptor. -/
theorem writes_write (m : DescriptorMessage) : Writes m.slots m.write := by
  have hputs : List.Forall₂ Slot.PutAs m.slots
      [putBytes 1 m.publicKey, putBytes 2 m.secret, putBytes 3 m.secretSignature,
        putNumber 4 m.groupType, putBytes 5 m.signingKey] :=
    .cons (putAs_putBytes (by decide) (by decide) _) <|
    .cons (putAs_putBytes (by decide) (by decide) _) <|
    .cons (putAs_putBytes (by decide) (by decide) _) <|
    .cons (putAs_putNumber (by decide) (by decide) _) <|
    .cons (putAs_putBytes (by decide) (by decide) _) .nil
  simpa [write] using writes_of_putAs hputs

end DescriptorMessage

/-! ## Groups -/

namespace GroupMessage

/-- Whether the numbers of a message fit in 32 bits. -/
def Fits (m : GroupMessage) : Prop :=
  ∀ d, m.descriptor = some d → FitsSigned32 d.groupType

/-- The fields of a group. -/
def slots (m : GroupMessage) : List Slot :=
  [messageSlot 1 (m.descriptor.map DescriptorMessage.slots), textSlot 2 m.displayName]

/-- The part of a group that some numbers account for. -/
def part (m : GroupMessage) (seen : Nat → Bool) : GroupMessage where
  descriptor := if seen 1 then m.descriptor else none
  displayName := if seen 2 then m.displayName else []

theorem apply_other (m : GroupMessage) {t : Token} (h1 : t.number ≠ 1) (h2 : t.number ≠ 2) :
    m.apply t = .ok m := by
  unfold apply
  split <;> simp_all

theorem accounts {m : GroupMessage} (hm : m.Fits) : Accounts apply m.slots {} m m.part where
  nodup := (by decide : [1, 2].Nodup)
  nothing := rfl
  step := by
    rintro seen ⟨number, p⟩ h
    simp only [slots, List.forall_mem_cons] at h
    obtain ⟨hdescriptor, hname, -⟩ := h
    by_cases h1 : number = 1
    · obtain ⟨hstates, hnew⟩ := hdescriptor h1
      obtain ⟨d, bs, hd, hwrites, rfl⟩ := states_messageSlot_iff.1 hstates
      -- no descriptor was read before, so this one is read into the empty one
      replace hnew : seen 1 = false := hnew
      have hread := readInto_of_writes (DescriptorMessage.accounts (hm d hd)) (depthLimit - 2)
        hwrites
      simp [h1, apply, part, hnew, hread, Except.map, hd]
    by_cases h2 : number = 2
    · obtain ⟨rfl, -⟩ := hname h2
      simp [h2, apply, part, getText_encode, Except.map]
    · rw [apply_other _ h1 h2]
      simp [part, h1, h2]
  everything := by
    intro seen h
    simp only [slots, List.forall_mem_cons] at h
    obtain ⟨hdescriptor, hname, -⟩ := h
    have hdescriptor' : (if seen 1 then m.descriptor else none) = m.descriptor :=
      kept_of_left_out fun hleft => optional_messageSlot_iff.1 (hdescriptor hleft)
    have hname' : (if seen 2 then m.displayName else []) = m.displayName :=
      kept_of_left_out fun hleft => optional_textSlot_iff.1 (hname hleft)
    rw [part, hdescriptor', hname']

/-- What is written is one way to write a group. -/
theorem writes_write (m : GroupMessage) : Writes m.slots m.write := by
  have hputs : List.Forall₂ Slot.PutAs m.slots
      [putMessage 1 (m.descriptor.map DescriptorMessage.write), putText 2 m.displayName] :=
    .cons (putAs_putMessage (by decide) (by decide) DescriptorMessage.writes_write _) <|
    .cons (putAs_putText (by decide) (by decide) _) .nil
  simpa [write] using writes_of_putAs hputs

end GroupMessage

/-! ## The link message -/

namespace InviteMessage

/-- Whether the numbers of a message and of its inner messages fit in 32 bits. -/
structure Fits (m : InviteMessage) : Prop where
  kind : FitsSigned32 m.kind
  group : ∀ g, m.group = some g → g.Fits

/-- The fields of a link message. -/
def slots (m : InviteMessage) : List Slot :=
  [numberSlot 1 m.kind, messageSlot 2 (m.identity.map IdentityMessage.slots),
    messageSlot 3 (m.group.map GroupMessage.slots)]

/-- The part of a link message that some numbers account for. -/
def part (m : InviteMessage) (seen : Nat → Bool) : InviteMessage where
  kind := if seen 1 then m.kind else 0
  identity := if seen 2 then m.identity else none
  group := if seen 3 then m.group else none

theorem apply_other (m : InviteMessage) {t : Token} (h1 : t.number ≠ 1) (h2 : t.number ≠ 2)
    (h3 : t.number ≠ 3) : m.apply t = .ok m := by
  unfold apply
  split <;> simp_all

theorem accounts {m : InviteMessage} (hm : m.Fits) : Accounts apply m.slots {} m m.part where
  nodup := (by decide : [1, 2, 3].Nodup)
  nothing := rfl
  step := by
    rintro seen ⟨number, p⟩ h
    simp only [slots, List.forall_mem_cons] at h
    obtain ⟨hkind, hidentity, hgroup, -⟩ := h
    by_cases h1 : number = 1
    · obtain ⟨rfl, -⟩ := hkind h1
      simp [h1, apply, part, signed32_emod hm.kind]
    by_cases h2 : number = 2
    · obtain ⟨hstates, hnew⟩ := hidentity h2
      obtain ⟨i, bs, hi, hwrites, rfl⟩ := states_messageSlot_iff.1 hstates
      replace hnew : seen 2 = false := hnew
      have hread := readInto_of_writes i.accounts (depthLimit - 1) hwrites
      simp [h2, apply, part, hnew, hread, Except.map, hi]
    by_cases h3 : number = 3
    · obtain ⟨hstates, hnew⟩ := hgroup h3
      obtain ⟨g, bs, hg, hwrites, rfl⟩ := states_messageSlot_iff.1 hstates
      replace hnew : seen 3 = false := hnew
      have hread := readInto_of_writes (GroupMessage.accounts (hm.group g hg)) (depthLimit - 1)
        hwrites
      simp [h3, apply, part, hnew, hread, Except.map, hg]
    · rw [apply_other _ h1 h2 h3]
      simp [part, h1, h2, h3]
  everything := by
    intro seen h
    simp only [slots, List.forall_mem_cons] at h
    obtain ⟨hkind, hidentity, hgroup, -⟩ := h
    have hkind' : (if seen 1 then m.kind else 0) = m.kind := kept_of_left_out hkind
    have hidentity' : (if seen 2 then m.identity else none) = m.identity :=
      kept_of_left_out fun hleft => optional_messageSlot_iff.1 (hidentity hleft)
    have hgroup' : (if seen 3 then m.group else none) = m.group :=
      kept_of_left_out fun hleft => optional_messageSlot_iff.1 (hgroup hleft)
    rw [part, hkind', hidentity', hgroup']

/-- Whoever writes a link message, in whatever order and with whatever unknown fields among its
    own, it is read as the message. -/
theorem read_of_writes {m : InviteMessage} (hm : m.Fits) {bs : Bytes} (h : Writes m.slots bs) :
    read bs = .ok m :=
  readInto_of_writes (accounts hm) depthLimit h

/-- What is written is one way to write a link message. -/
theorem writes_write (m : InviteMessage) : Writes m.slots m.write := by
  have hputs : List.Forall₂ Slot.PutAs m.slots
      [putNumber 1 m.kind, putMessage 2 (m.identity.map IdentityMessage.write),
        putMessage 3 (m.group.map GroupMessage.write)] :=
    .cons (putAs_putNumber (by decide) (by decide) _) <|
    .cons (putAs_putMessage (by decide) (by decide) IdentityMessage.writes_write _) <|
    .cons (putAs_putMessage (by decide) (by decide) GroupMessage.writes_write _) .nil
  simpa [write] using writes_of_putAs hputs

/-- What is written is read back. -/
theorem read_write {m : InviteMessage} (hm : m.Fits) : read m.write = .ok m :=
  read_of_writes hm m.writes_write

end InviteMessage

end InviteLink.Wire
