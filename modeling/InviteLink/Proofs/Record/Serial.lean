import InviteLink.Proofs.Log.Traced
import InviteLink.Proofs.Text.Scalar
import InviteLink.Proofs.Wire.Message
import InviteLink.Record.Serial

set_option autoImplicit false

/-! # Records are read as they are written

Whatever has a name without surrogates can be written (`Record.exists_toOctets_iff`). The message
of a record determines the record (`Record.ofMessage_messageNamed`), whether or not it states the
kind, and the octets determine the message. So octets with the kind in them are read as the record
(`Record.ofOctets_toOctets`), and octets without it are read as the record once the kind is given
again (`Record.ofOctets_kind_toOctets`). What is read back cannot be shared by two records, so
records of one kind have different octets if they differ at all. -/

namespace InviteLink

open Wire

/-! ## Numbers of kinds and types -/

theorem Kind.ofNumber?_number (k : Kind) : Kind.ofNumber? k.number = some k := by
  cases k <;> rfl

theorem GroupType.ofNumber?_number (t : GroupType) : GroupType.ofNumber? t.number = some t :=
  GroupType.ofNumber?_eq_some_iff.2 rfl

theorem Kind.fitsSigned32_number (k : Kind) : FitsSigned32 k.number := by
  cases k <;> exact ⟨by decide, by decide⟩

theorem GroupType.fitsSigned32_number (t : GroupType) : FitsSigned32 t.number := by
  cases t <;> exact ⟨by decide, by decide⟩

/-! ## Records and messages -/

theorem Descriptor.ofMessage_toMessage (d : Descriptor) :
    Descriptor.ofMessage d.toMessage = .ok d := by
  simp only [Descriptor.ofMessage, Descriptor.toMessage, GroupType.ofNumber?_number]

theorem Record.fits_messageNamed (includeKind : Bool) (r : Record) (name : ScalarText) :
    (r.messageNamed includeKind name).Fits := by
  have hkind : ∀ k : Kind, FitsSigned32 (if includeKind then (k.number : Int) else 0) := by
    intro k
    split_ifs
    · exact k.fitsSigned32_number
    · exact ⟨by decide, by decide⟩
  cases r with
  | contact c => exact ⟨hkind .contact, by simp [Record.messageNamed]⟩
  | group g =>
      refine ⟨hkind .group, ?_⟩
      rintro m hm d hd
      simp only [Record.messageNamed, Option.some.injEq] at hm
      subst hm
      obtain ⟨d, -, rfl⟩ := Option.map_eq_some_iff.1 hd
      exact d.groupType.fitsSigned32_number

/-- The message of a record under a name gives the record with this name, if it is read under the
    kind of the record. -/
theorem Record.ofMessage_messageNamed (includeKind : Bool) (r : Record) (name : ScalarText) :
    Record.ofMessage r.kind.number (r.messageNamed includeKind name)
      = .ok (r.withDisplayName (name.map .char)) := by
  rw [Record.ofMessage, Kind.ofNumber?_number]
  cases r with
  | contact c => rfl
  | group g =>
      obtain ⟨descriptor, name'⟩ := g
      cases descriptor with
      | none => rfl
      | some d =>
          simp only [Record.kind, Record.messageNamed, GroupInvite.ofMessage, Option.map_some,
            Option.getD_some, Descriptor.ofMessage_toMessage, Except.map, Record.withDisplayName]

theorem Record.withDisplayName_self (r : Record) : r.withDisplayName r.displayName = r := by
  cases r <;> rfl

/-! ## Records and octets -/

/-- The octets of a record are those of its message under its name, which has characters only. -/
theorem Record.toOctets_eq_ok_iff {includeKind : Bool} {r : Record} {bs : Bytes} :
    r.toOctets includeKind = .ok bs
      ↔ ∃ name : ScalarText, r.displayName = name.map .char
          ∧ (r.messageNamed includeKind name).write = bs := by
  rw [Record.toOctets, Record.toMessage]
  simp only [map_eq_ok_iff, scalars_eq_ok_iff]
  constructor
  · rintro ⟨_, ⟨name, hname, rfl⟩, rfl⟩
    exact ⟨name, hname, rfl⟩
  · rintro ⟨name, hname, rfl⟩
    exact ⟨_, ⟨name, hname, rfl⟩, rfl⟩

/-- A record can be written just when its name can. -/
theorem Record.exists_toOctets_iff {includeKind : Bool} {r : Record} :
    (∃ bs, r.toOctets includeKind = .ok bs) ↔ r.displayName.isScalar = true := by
  rw [← exists_eq_map_char_iff]
  simp only [Record.toOctets_eq_ok_iff]
  constructor
  · rintro ⟨_, name, hname, -⟩
    exact ⟨name, hname⟩
  · rintro ⟨name, hname⟩
    exact ⟨_, name, hname, rfl⟩

/-- Octets that state the kind are read as the record. -/
theorem Record.ofOctets_toOctets {r : Record} {bs : Bytes} (h : r.toOctets true = .ok bs) :
    Record.ofOctets none bs = pure r := by
  obtain ⟨name, hname, rfl⟩ := Record.toOctets_eq_ok_iff.1 h
  have hkind : (r.messageNamed true name).kind = r.kind.number := by cases r <;> rfl
  rw [Record.ofOctets, InviteMessage.read_write (r.fits_messageNamed true name)]
  show Traced.ofExcept (Record.ofMessage (r.messageNamed true name).kind _) = _
  rw [hkind, Record.ofMessage_messageNamed, ← hname, Record.withDisplayName_self]
  rfl

/-- Octets, whether or not they state the kind, are read as the record under its kind. -/
theorem Record.ofOctets_kind_toOctets {includeKind : Bool} {r : Record} {bs : Bytes}
    (h : r.toOctets includeKind = .ok bs) :
    Record.ofOctets (some r.kind.number) bs = pure r := by
  obtain ⟨name, hname, rfl⟩ := Record.toOctets_eq_ok_iff.1 h
  rw [Record.ofOctets, InviteMessage.read_write (r.fits_messageNamed includeKind name)]
  show Traced.ofExcept (Record.ofMessage r.kind.number _) = _
  rw [Record.ofMessage_messageNamed, ← hname, Record.withDisplayName_self]
  rfl

/-- Every record takes octets, even without its kind, as the inner message is always written. -/
theorem Record.toOctets_ne_nil {includeKind : Bool} {r : Record} {bs : Bytes}
    (h : r.toOctets includeKind = .ok bs) : bs ≠ [] := by
  rintro rfl
  obtain ⟨name, -, hwritten⟩ := Record.toOctets_eq_ok_iff.1 h
  -- no octets are read as the empty message, which has no inner one
  have hread := InviteMessage.read_write (r.fits_messageNamed includeKind name)
  rw [hwritten, InviteMessage.read, readInto_nil, Except.ok.injEq] at hread
  cases r <;> simp [Record.messageNamed] at hread

/-- Two records of one kind have the same octets only if they are the same. -/
theorem Record.toOctets_inj {includeKind : Bool} {r r' : Record} {bs : Bytes}
    (hkind : r.kind = r'.kind) (h : r.toOctets includeKind = .ok bs)
    (h' : r'.toOctets includeKind = .ok bs) : r = r' := by
  have hread := Record.ofOctets_kind_toOctets h
  rw [hkind, Record.ofOctets_kind_toOctets h'] at hread
  exact (Except.ok.inj (congrArg Traced.outcome hread)).symm

/-- Every record, shareable or not, can be written just when its name can, and then it is read from
    its octets, with the kind in them or with the kind given again; without it there are octets
    still, and a group that lacks its descriptor is told from one whose descriptor is empty in all
    its fields. -/
theorem Record.read_from_octets (r : Record) :
    (∀ includeKind, (∃ bs, r.toOctets includeKind = .ok bs) ↔ r.displayName.isScalar = true)
      ∧ (∀ bs, r.toOctets true = .ok bs → (Record.ofOctets none bs).outcome = .ok r)
      ∧ (∀ bs, r.toOctets false = .ok bs →
        (Record.ofOctets (some r.kind.number) bs).outcome = .ok r ∧ bs ≠ [])
      ∧ ∀ includeKind name bs, (Record.group ⟨none, name⟩).toOctets includeKind = .ok bs →
        (Record.group ⟨some {}, name⟩).toOctets includeKind ≠ .ok bs := by
  refine ⟨fun includeKind => Record.exists_toOctets_iff, ?_, ?_, ?_⟩
  · intro bs h
    rw [Record.ofOctets_toOctets h, Traced.outcome_pure]
  · intro bs h
    rw [Record.ofOctets_kind_toOctets h, Traced.outcome_pure]
    exact ⟨rfl, Record.toOctets_ne_nil h⟩
  · intro includeKind name bs h h'
    have hsame := Record.toOctets_inj (by rfl) h h'
    simp at hsame

/-! ## Acceptance -/

theorem GroupType.exists_ofNumber?_iff {n : Int} :
    (∃ t, GroupType.ofNumber? n = some t) ↔ 0 ≤ n ∧ n ≤ 3 := by
  constructor
  · rintro ⟨t, ht⟩
    unfold GroupType.ofNumber? at ht
    split_ifs at ht <;> omega
  · intro hn
    have hcases : n = 0 ∨ n = 1 ∨ n = 2 ∨ n = 3 := by omega
    rcases hcases with rfl | rfl | rfl | rfl
    · exact ⟨.undefined, rfl⟩
    · exact ⟨.account, rfl⟩
    · exact ⟨.contact, rfl⟩
    · exact ⟨.multiMember, rfl⟩

/-- The descriptor of a message, if there is one, states a known group type. -/
def Wire.InviteMessage.HasKnownGroupType (m : InviteMessage) : Prop :=
  ∀ g, m.group = some g → ∀ d, g.descriptor = some d → 0 ≤ d.groupType ∧ d.groupType ≤ 3

theorem Descriptor.ofMessage_ok_iff {m : DescriptorMessage} :
    (∃ d, Descriptor.ofMessage m = .ok d) ↔ 0 ≤ m.groupType ∧ m.groupType ≤ 3 := by
  rw [← GroupType.exists_ofNumber?_iff, Descriptor.ofMessage]
  cases GroupType.ofNumber? m.groupType <;> simp

theorem GroupInvite.ofMessage_ok_iff {m : InviteMessage} :
    (∃ g, GroupInvite.ofMessage m = .ok g) ↔ m.HasKnownGroupType := by
  rw [GroupInvite.ofMessage, InviteMessage.HasKnownGroupType]
  cases m.group with
  | none => simp
  | some g =>
      simp only [Option.getD_some, Option.some.injEq, forall_eq']
      cases g.descriptor with
      | none => simp
      | some d =>
          simp only [exists_map_eq_ok_iff, Descriptor.ofMessage_ok_iff, Option.some.injEq,
            forall_eq']

/-- A message is a record under the two known kinds; as a group it must state a known type. -/
theorem Record.ofMessage_ok_iff {n : Int} {m : InviteMessage} :
    (∃ r, Record.ofMessage n m = .ok r) ↔ n = 1 ∨ (n = 2 ∧ m.HasKnownGroupType) := by
  rw [Record.ofMessage, ← GroupInvite.ofMessage_ok_iff]
  by_cases hcontact : n = 1
  · rw [hcontact]
    simp [Kind.ofNumber?]
  by_cases hgroup : n = 2
  · rw [hgroup]
    simp [Kind.ofNumber?, exists_map_eq_ok_iff]
  · simp [Kind.ofNumber?, hcontact, hgroup]

theorem Record.ofOctets_ok_iff {kind : Option Int} {bs : Bytes} :
    (∃ r, (Record.ofOctets kind bs).outcome = .ok r)
      ↔ ∃ m, InviteMessage.read bs = .ok m
          ∧ (kind.getD m.kind = 1 ∨ (kind.getD m.kind = 2 ∧ m.HasKnownGroupType)) := by
  unfold Record.ofOctets
  cases InviteMessage.read bs with
  | error f => simp [Traced.outcome_bind, Except.bind, Traced.log]
  | ok m => simp only [Traced.outcome_ofExcept, Except.ok.injEq, exists_eq_left',
      Record.ofMessage_ok_iff]

/-! ## Refusals -/

theorem Descriptor.ofMessage_error {m : DescriptorMessage} {e : Refusal}
    (h : Descriptor.ofMessage m = .error e) : e = .unknownGroupType m.groupType := by
  unfold Descriptor.ofMessage at h
  split at h
  · cases h
    rfl
  · cases h

theorem GroupInvite.ofMessage_error {m : InviteMessage} {e : Refusal}
    (h : GroupInvite.ofMessage m = .error e) : ∃ t, e = .unknownGroupType t := by
  rw [GroupInvite.ofMessage] at h
  split at h
  · cases h
  · exact ⟨_, Descriptor.ofMessage_error (map_eq_error_iff.1 h)⟩

/-- A message is refused for its kind or for the type of its group. -/
theorem Record.ofMessage_error {n : Int} {m : InviteMessage} {e : Refusal}
    (h : Record.ofMessage n m = .error e) :
    (n = 0 ∧ e = .noKind) ∨ (n ≠ 0 ∧ (e = .unknownKind n ∨ ∃ t, e = .unknownGroupType t)) := by
  unfold Record.ofMessage at h
  split at h
  · cases h
  · next hkind =>
      have hn : n ≠ 0 := by
        rintro rfl
        exact absurd hkind (by decide)
      exact Or.inr ⟨hn, Or.inr (GroupInvite.ofMessage_error (map_eq_error_iff.1 h))⟩
  · rw [Except.error.injEq] at h
    split_ifs at h with hn
    · exact Or.inl ⟨hn, h.symm⟩
    · exact Or.inr ⟨hn, Or.inl h.symm⟩

/-- What a message lacks can only be its kind; whatever else is wrong with it is invalid. -/
theorem Record.refusalClass_ofMessage {n : Int} {m : InviteMessage} {e : Refusal}
    (h : Record.ofMessage n m = .error e) :
    e.refusalClass = if n = 0 then .missing else .invalid := by
  obtain ⟨hn, rfl⟩ | ⟨hn, rfl | ⟨t, rfl⟩⟩ := Record.ofMessage_error h
  · rw [if_pos hn]
    rfl
  · rw [if_neg hn]
    rfl
  · rw [if_neg hn]
    rfl

/-- Octets that hold no message are refused with a notice of how many they are; what is wrong with a
    message has no notice. -/
theorem Record.notices_ofOctets (kind : Option Int) (bs : Bytes) :
    (Record.ofOctets kind bs).Notices bs.length := by
  unfold Record.ofOctets
  cases InviteMessage.read bs with
  | error f => exact Traced.notices_log_fail rfl
  | ok m =>
      apply Traced.notices_ofExcept
      intro e he
      obtain ⟨-, rfl⟩ | ⟨-, rfl | ⟨t, rfl⟩⟩ := Record.ofMessage_error he <;> rfl

/-- Octets are refused for something missing just when they hold a message without a kind, and
    none is given. -/
theorem Record.refusedAs_missing_ofOctets_iff {kind : Option Int} {bs : Bytes} :
    (Record.ofOctets kind bs).RefusedAs .missing
      ↔ ∃ m, InviteMessage.read bs = .ok m ∧ kind.getD m.kind = 0 := by
  unfold Record.ofOctets
  cases InviteMessage.read bs with
  | error f => simp [Refusal.refusalClass]
  | ok m =>
      simp only [Traced.refusedAs_ofExcept, Except.ok.injEq, exists_eq_left']
      constructor
      · rintro ⟨e, he, hclass⟩
        rw [Record.refusalClass_ofMessage he] at hclass
        split_ifs at hclass with hn
        exact hn
      · intro hn
        rw [hn]
        exact ⟨.noKind, rfl, rfl⟩

theorem Record.not_refusedAs_foreign_ofOctets (kind : Option Int) (bs : Bytes) :
    ¬(Record.ofOctets kind bs).RefusedAs .foreign := by
  unfold Record.ofOctets
  cases InviteMessage.read bs with
  | error f => simp [Refusal.refusalClass]
  | ok m =>
      rintro ⟨e, he, hclass⟩
      rw [Record.refusalClass_ofMessage he] at hclass
      split_ifs at hclass

/-- Octets that are read under a kind lack nothing, so they can only be invalid. -/
theorem Record.not_refusedAs_ofOctets_kind (kind : Kind) (bs : Bytes) {c : RefusalClass}
    (hc : c ≠ .invalid) : ¬(Record.ofOctets (some (kind.number : Int)) bs).RefusedAs c := by
  cases c with
  | missing =>
      rw [Record.refusedAs_missing_ofOctets_iff]
      rintro ⟨m, -, hkind⟩
      rw [Option.getD_some] at hkind
      cases kind <;> exact absurd hkind (by decide)
  | invalid => exact absurd rfl hc
  | foreign => exact Record.not_refusedAs_foreign_ofOctets _ bs

end InviteLink
