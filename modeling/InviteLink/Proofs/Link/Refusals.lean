import InviteLink.Proofs.Codec.Positional
import InviteLink.Proofs.Link.Grammar
import InviteLink.Proofs.Record.Serial

set_option autoImplicit false

/-! # How links are refused

Reading a link ends in a record or in a refusal of one of three classes. A text that is no link of
either form is invalid, so the other two classes are decided by the blob of a link
(`Record.refusedAs_ofLink_iff`): a character outside the alphabet of the form is met before
anything else in the blob, and only an internal link, whose blob states the kind, can lack it. -/

namespace InviteLink

open Wire

/-! ## Blobs -/

/-- Text is refused by a codec for a character outside the alphabet, and for nothing else. -/
theorem Codec.refusedAs_decode_iff (codec : Codec) {t : Text} {c : RefusalClass} :
    (Traced.ofExcept ((codec.decode t).mapError Refusal.foreignCharacter)).RefusedAs c
      ↔ c = .foreign ∧ ∃ ch ∈ t, ch ∉ codec.alphabet := by
  rw [Traced.refusedAs_ofExcept, ← codec.decode_error_iff]
  constructor
  · rintro ⟨e, he, rfl⟩
    obtain ⟨f, hf, rfl⟩ := mapError_eq_error_iff.1 he
    exact ⟨rfl, f, hf⟩
  · rintro ⟨rfl, f, hf⟩
    exact ⟨.foreignCharacter f, mapError_eq_error_iff.2 ⟨f, hf, rfl⟩, rfl⟩

namespace InternalForm

theorem refusedAs_foreign_decodeBlob_iff {blob : Text} :
    (decodeBlob blob).RefusedAs .foreign ↔ ∃ ch ∈ blob, ch ∉ Codec.qr.alphabet := by
  rw [decodeBlob, Traced.refusedAs_bind, Codec.refusedAs_decode_iff]
  constructor
  · rintro (h | ⟨data, -, h⟩)
    · exact h.2
    · exact absurd h (Record.not_refusedAs_foreign_ofOctets none data)
  · intro h
    exact Or.inl ⟨rfl, h⟩

theorem refusedAs_missing_decodeBlob_iff {blob : Text} :
    (decodeBlob blob).RefusedAs .missing
      ↔ ∃ data m, Codec.qr.decode blob = .ok data ∧ InviteMessage.read data = .ok m
          ∧ m.kind = 0 := by
  rw [decodeBlob, Traced.refusedAs_bind, Codec.refusedAs_decode_iff]
  simp only [Traced.outcome_ofExcept, mapError_eq_ok_iff, Record.refusedAs_missing_ofOctets_iff,
    Option.getD_none]
  constructor
  · rintro (⟨h, -⟩ | ⟨data, hdata, m, hm⟩)
    · cases h
    · exact ⟨data, m, hdata, hm⟩
  · rintro ⟨data, m, hdata, hm⟩
    exact Or.inr ⟨data, hdata, m, hm⟩

end InternalForm

namespace WebForm

theorem refusalClass_readMetadata {query : Text} {e : Refusal}
    (h : readMetadata query = .error e) : e.refusalClass = .invalid := by
  unfold readMetadata at h
  split_ifs at h
  · split at h
    · cases h
      rfl
    · cases h
  · cases h
    rfl

/-- The octets of a blob lack nothing, as the kind is given, and neither does the query text. -/
theorem refusedAs_decodeBlob_iff {kind : Kind} {blob query : Text} {c : RefusalClass}
    (hc : c ≠ .invalid) :
    (decodeBlob kind blob query).RefusedAs c
      ↔ c = .foreign ∧ ∃ ch ∈ blob, ch ∉ Codec.base58.alphabet := by
  rw [decodeBlob, Traced.refusedAs_bind, Codec.refusedAs_decode_iff]
  simp only [Traced.refusedAs_bind, Traced.refusedAs_ofExcept, Traced.refusedAs_pure]
  constructor
  · rintro (h | ⟨data, -, h | ⟨record, -, ⟨e, he, hclass⟩ | ⟨pairs, -, h⟩⟩⟩)
    · exact h
    · exact absurd h (Record.not_refusedAs_ofOctets_kind kind data hc)
    · rw [refusalClass_readMetadata he] at hclass
      exact absurd hclass.symm hc
    · exact h.elim
  · exact Or.inl

end WebForm

/-! ## Links -/

namespace InternalForm

theorem refusedAs_decode_iff {u : Text} {c : RefusalClass} (hc : c ≠ .invalid) :
    (decode u).RefusedAs c ↔ ∃ blob, IsLink u blob ∧ (decodeBlob blob).RefusedAs c := by
  constructor
  · intro h
    by_cases hlink : ∃ blob, IsLink u blob
    · obtain ⟨blob, hblob⟩ := hlink
      rw [decode_of_isLink hblob] at h
      exact ⟨blob, hblob, h⟩
    · have hinvalid := refusedAs_of_not_isLink (not_exists.1 hlink)
      exact absurd (h.unique hinvalid) hc
  · rintro ⟨blob, hblob, h⟩
    rwa [decode_of_isLink hblob]

end InternalForm

namespace WebForm

theorem refusedAs_decode_iff {u : Text} {c : RefusalClass} (hc : c ≠ .invalid) :
    (decode u).RefusedAs c
      ↔ ∃ kind blob query, IsLink u kind blob query ∧ blob ≠ []
          ∧ (decodeBlob kind blob (query.getD [])).RefusedAs c := by
  constructor
  · intro h
    by_cases hlink : ∃ kind blob query, IsLink u kind blob query
    · obtain ⟨kind, blob, query, hlink⟩ := hlink
      rw [decode_of_isLink hlink] at h
      split_ifs at h with hblob
      · rw [Traced.refusedAs_fail] at h
        exact absurd h.symm hc
      · exact ⟨kind, blob, query, hlink, hblob, h⟩
    · have hinvalid := refusedAs_of_not_isLink fun kind blob query h => hlink ⟨kind, blob, query, h⟩
      exact absurd (h.unique hinvalid) hc
  · rintro ⟨kind, blob, query, hlink, hblob, h⟩
    rwa [decode_of_isLink hlink, if_neg hblob]

end WebForm

/-- A text that is refused, but not as invalid, is empty, or it is a link whose blob is refused. -/
theorem Record.refusedAs_ofLink_iff {u : Text} {c : RefusalClass} (hc : c ≠ .invalid) :
    (Record.ofLink u).RefusedAs c
      ↔ (u = [] ∧ c = .missing)
        ∨ (∃ blob, InternalForm.IsLink u blob ∧ (InternalForm.decodeBlob blob).RefusedAs c)
        ∨ ∃ kind blob query, WebForm.IsLink u kind blob query ∧ blob ≠ []
            ∧ (WebForm.decodeBlob kind blob (query.getD [])).RefusedAs c := by
  constructor
  · intro h
    by_cases hu : u = []
    · rw [Record.ofLink, if_pos hu, Traced.refusedAs_fail] at h
      exact Or.inl ⟨hu, h.symm⟩
    -- what is logged on the way changes no refusal
    · have hdecode : (LinkForm.decode (LinkForm.detect u) u).RefusedAs c := by
        rwa [Traced.RefusedAs, Record.outcome_ofLink hu] at h
      right
      cases hform : LinkForm.detect u with
      | none =>
          rw [hform, LinkForm.decode, Traced.refusedAs_fail] at hdecode
          exact absurd hdecode.symm hc
      | some form =>
          rw [hform] at hdecode
          cases form with
          | internal => exact Or.inl ((InternalForm.refusedAs_decode_iff hc).1 hdecode)
          | web => exact Or.inr ((WebForm.refusedAs_decode_iff hc).1 hdecode)
  · rintro (⟨rfl, rfl⟩ | ⟨blob, hlink, h⟩ | ⟨kind, blob, query, hlink, hblob, h⟩)
    · exact ⟨.noLink, rfl, rfl⟩
    · rwa [Traced.RefusedAs, InternalForm.outcome_ofLink_of_isLink hlink]
    · rwa [Traced.RefusedAs, WebForm.outcome_ofLink_of_isLink hlink hblob]

/-- Only an internal link can lack something, and what it lacks is the kind. -/
theorem Record.refusedAs_missing_ofLink_iff {u : Text} :
    (Record.ofLink u).RefusedAs .missing
      ↔ u = [] ∨ ∃ blob data m, InternalForm.IsLink u blob ∧ Codec.qr.decode blob = .ok data
          ∧ InviteMessage.read data = .ok m ∧ m.kind = 0 := by
  rw [Record.refusedAs_ofLink_iff (by decide)]
  simp only [InternalForm.refusedAs_missing_decodeBlob_iff,
    WebForm.refusedAs_decodeBlob_iff (c := .missing) (by decide)]
  constructor
  · rintro (⟨hu, -⟩ | ⟨blob, hlink, data, m, h⟩ | ⟨kind, blob, query, -, -, h, -⟩)
    · exact Or.inl hu
    · exact Or.inr ⟨blob, data, m, hlink, h⟩
    · cases h
  · rintro (hu | ⟨blob, data, m, hlink, h⟩)
    · exact Or.inl ⟨hu, trivial⟩
    · exact Or.inr (Or.inl ⟨blob, hlink, data, m, h⟩)

theorem Record.refusedAs_foreign_ofLink_iff {u : Text} :
    (Record.ofLink u).RefusedAs .foreign
      ↔ (∃ blob, InternalForm.IsLink u blob ∧ ∃ ch ∈ blob, ch ∉ Codec.qr.alphabet)
        ∨ ∃ kind blob query, WebForm.IsLink u kind blob query ∧ blob ≠ []
            ∧ ∃ ch ∈ blob, ch ∉ Codec.base58.alphabet := by
  rw [Record.refusedAs_ofLink_iff (by decide)]
  simp only [InternalForm.refusedAs_foreign_decodeBlob_iff,
    WebForm.refusedAs_decodeBlob_iff (c := .foreign) (by decide), true_and]
  constructor
  · rintro (⟨-, h⟩ | h)
    · cases h
    · exact h
  · exact Or.inr

/-- A web link states its kind outside the blob, so nothing is ever missing in it. -/
theorem Record.not_refusedAs_missing_of_web {u : Text} (h : LinkForm.web.Begins u) :
    ¬(Record.ofLink u).RefusedAs .missing := by
  rw [Record.refusedAs_missing_ofLink_iff]
  rintro (hu | ⟨blob, data, m, hlink, -⟩)
  · exact h.ne_nil hu
  · exact h.not_internal_of_web hlink.begins

/-- Every text is read as a record or refused in one of three classes, and the classes are exact. -/
theorem ofLink_refusal_classes (u : Text) :
    ((∃ r, (Record.ofLink u).outcome = .ok r) ∨ (Record.ofLink u).RefusedAs .missing
        ∨ (Record.ofLink u).RefusedAs .invalid ∨ (Record.ofLink u).RefusedAs .foreign)
      ∧ ((Record.ofLink u).RefusedAs .missing
        ↔ u = [] ∨ ∃ blob data m, InternalForm.IsLink u blob
            ∧ (∀ ch ∈ blob, ch ∈ Codec.qr.alphabet) ∧ Codec.qr.decode blob = .ok data
            ∧ InviteMessage.read data = .ok m ∧ m.kind = 0)
      ∧ ¬(LinkForm.web.Begins u ∧ (Record.ofLink u).RefusedAs .missing)
      ∧ ((Record.ofLink u).RefusedAs .foreign
        ↔ (∃ blob, InternalForm.IsLink u blob ∧ ∃ ch ∈ blob, ch ∉ Codec.qr.alphabet)
          ∨ ∃ kind blob query, WebForm.IsLink u kind blob query ∧ blob ≠ []
              ∧ ∃ ch ∈ blob, ch ∉ Codec.base58.alphabet) := by
  refine ⟨?_, ?_, ?_, Record.refusedAs_foreign_ofLink_iff⟩
  · rcases (Record.ofLink u).ok_or_refusedAs with hok | ⟨c, hc⟩
    · exact Or.inl hok
    · right
      cases c with
      | missing => exact Or.inl hc
      | invalid => exact Or.inr (Or.inl hc)
      | foreign => exact Or.inr (Or.inr hc)
  · rw [Record.refusedAs_missing_ofLink_iff]
    constructor
    · rintro (hu | ⟨blob, data, m, hlink, hdata, hm⟩)
      · exact Or.inl hu
      · exact Or.inr ⟨blob, data, m, hlink, Codec.qr.decode_ok_iff.1 ⟨data, hdata⟩, hdata, hm⟩
    · rintro (hu | ⟨blob, data, m, hlink, -, hdata, hm⟩)
      · exact Or.inl hu
      · exact Or.inr ⟨blob, data, m, hlink, hdata, hm⟩
  · rintro ⟨hweb, h⟩
    exact Record.not_refusedAs_missing_of_web hweb h

end InviteLink
