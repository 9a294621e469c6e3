import InviteLink.Proofs.Link.Metadata
import InviteLink.Proofs.Wire.Append

set_option autoImplicit false

/-! # The tag of a web link as a field of its blob

A web link states the kind of its record in its tag, an internal link in a field of its blob. Of
several such fields the last one counts, so a field behind all others is an override like the tag:
octets that hold a message are read under a kind as the same octets with the field for that kind
behind them are read by themselves (`Record.ofOctets_append_kind`). Nothing is assumed of how the
octets were written. -/

namespace InviteLink

open Wire

/-! ## Octets -/

/-- The octets of the field that states a kind. -/
def Kind.field (kind : Kind) : Bytes := [8, UInt8.ofNat kind.number]

theorem Kind.field_eq_putNumber (kind : Kind) : kind.field = putNumber 1 kind.number := by
  cases kind <;> decide +kernel

/-- Under a given kind the kind of the message is of no account. -/
theorem Record.ofMessage_with_kind (n k : Int) (m : InviteMessage) :
    Record.ofMessage n { m with kind := k } = Record.ofMessage n m := rfl

/-- A kind that is given overrides what the octets state, as a last field with the kind does. -/
theorem Record.ofOctets_append_kind {data : Bytes} {m : InviteMessage}
    (h : InviteMessage.read data = .ok m) (kind : Kind) :
    Record.ofOctets none (data ++ kind.field) = Record.ofOctets (some kind.number) data := by
  have hkind : (kind.number : Int) ≠ 0 := by cases kind <;> decide
  have happend := InviteMessage.read_append_kind h kind.fitsSigned32_number hkind
  rw [Kind.field_eq_putNumber, Record.ofOctets, happend, Record.ofOctets, h]
  exact congrArg Traced.ofExcept (Record.ofMessage_with_kind _ _ m)

/-! ## Links -/

/-- A web link that ends behind its blob is read as the octets of the blob under the kind of its
    tag. -/
theorem WebForm.outcome_ofLink_octets (kind : Kind) {data : Bytes} (hdata : data ≠ []) :
    (Record.ofLink (LinkForm.web.lead.points
        ++ (kind.tag.points ++ .char '/' :: Codec.base58.encode data))).outcome
      = (Record.ofOctets (some kind.number) data).outcome := by
  have hlink : IsLink (LinkForm.web.lead.points
      ++ (kind.tag.points ++ .char '/' :: Codec.base58.encode data)) kind (Codec.base58.encode data)
      none :=
    ⟨LinkForm.web.lead.points, .refl _, slash_not_mem_encode data, by rw [behind, List.append_nil]⟩
  rw [outcome_ofLink_of_isLink hlink (Codec.base58.encode_ne_nil hdata), decodeBlob_octets,
    Traced.outcome_bind]
  -- no query text offers no name, so the record of the blob stays as it is
  cases (Record.ofOctets (some kind.number) data).outcome with
  | error e => rfl
  | ok record => exact congrArg Except.ok (Record.adoptName_nil record)

theorem InternalForm.outcome_ofLink_octets (data : Bytes) :
    (Record.ofLink (front ++ Codec.qr.encode data)).outcome
      = (Record.ofOctets none data).outcome := by
  have hlink : IsLink (front ++ Codec.qr.encode data) (Codec.qr.encode data) :=
    ⟨LinkForm.internal.lead.points, framing, .refl _, .refl _, by rw [front_eq]; simp⟩
  rw [outcome_ofLink_of_isLink hlink, decodeBlob_octets]

/-- Whatever octets hold a message, the web link of these octets under the tag of a kind and the
    internal link of the octets with the field for that kind behind them are read as the same
    record, or refused for the same cause: a tag is what a last field with the kind would be. -/
theorem tag_as_last_field {data : Bytes} {m : InviteMessage} (hdata : data ≠ [])
    (h : InviteMessage.read data = .ok m) (kind : Kind) :
    (Record.ofLink ("https://berty.tech/id#".points
        ++ (kind.tag.points ++ .char '/' :: Codec.base58.encode data))).outcome
      = (Record.ofLink ("BERTY://PB/".points
          ++ Codec.qr.encode (data ++ [8, UInt8.ofNat kind.number]))).outcome := by
  have hweb := WebForm.outcome_ofLink_octets kind hdata
  have hinternal := InternalForm.outcome_ofLink_octets (data ++ kind.field)
  rw [Record.ofOctets_append_kind h kind, ← hweb] at hinternal
  exact hinternal.symm

/-- The octets state another kind, twice, and hold a field that nobody knows. -/
theorem tag_as_last_field_foreign :
    ([0x08, 0x02, 0x08, 0x07, 0x78, 0x2A, 0x12, 0x03, 0x12, 0x01, 0xFF] : Bytes) ≠ []
      ∧ InviteMessage.read [0x08, 0x02, 0x08, 0x07, 0x78, 0x2A, 0x12, 0x03, 0x12, 0x01, 0xFF]
        = .ok { kind := 7, identity := some { accountKey := [0xFF] } }
      ∧ (Record.ofLink ("https://berty.tech/id#".points ++ (Kind.contact.tag.points ++ .char '/' ::
            Codec.base58.encode
              [0x08, 0x02, 0x08, 0x07, 0x78, 0x2A, 0x12, 0x03, 0x12, 0x01, 0xFF]))).outcome
        = (Record.ofLink ("BERTY://PB/".points ++ Codec.qr.encode
            ([0x08, 0x02, 0x08, 0x07, 0x78, 0x2A, 0x12, 0x03, 0x12, 0x01, 0xFF]
              ++ [8, UInt8.ofNat Kind.contact.number]))).outcome :=
  have hread : InviteMessage.read
      [0x08, 0x02, 0x08, 0x07, 0x78, 0x2A, 0x12, 0x03, 0x12, 0x01, 0xFF]
      = .ok { kind := 7, identity := some { accountKey := [0xFF] } } := by decide +kernel
  ⟨by decide, hread, tag_as_last_field (by decide) hread .contact⟩

end InviteLink
