import InviteLink.Proofs.Codec.Positional
import InviteLink.Proofs.Link.Grammar
import InviteLink.Proofs.Query.Grammar
import InviteLink.Proofs.Record.Serial

set_option autoImplicit false

/-! # Which links are read

A text is read as a record when it has the shape of a link and the blob and the query text in it
are read. The shape is a fixed number of code points in front, compared up to the case of ASCII
letters, and what stands behind them (`InternalForm.isLink_iff_take`, `WebForm.isLink_iff_take`).
An internal link is read as the record of its blob, whatever slashes the blob holds; a web link
may end behind its blob or go on with a query text, which may hold slashes and number signs. -/

namespace InviteLink

open Wire

/-! ## The internal form -/

namespace InternalForm

/-- What stands in front of the blob: the lead, the framing tag and a slash. -/
def front : Text := "BERTY://PB/".points

theorem front_eq : front = LinkForm.internal.lead.points ++ (framing ++ [.char '/']) := by decide

/-- An internal link is eleven code points that are the front up to case, and the blob. -/
theorem isLink_iff_take {u blob : Text} :
    IsLink u blob ↔ SameUpToCase (u.take 11) front ∧ u.drop 11 = blob := by
  constructor
  · rintro ⟨lead, tag, hlead, htag, rfl⟩
    have hfront : SameUpToCase (lead ++ (tag ++ [.char '/'])) front :=
      front_eq ▸ sameUpToCase_append_iff.2 ⟨lead, _, rfl, hlead,
        sameUpToCase_append_iff.2 ⟨tag, _, rfl, htag, .refl _⟩⟩
    have hlength : (lead ++ (tag ++ [CodePoint.char '/'])).length = 11 := hfront.length_eq
    have htext : lead ++ (tag ++ .char '/' :: blob)
        = (lead ++ (tag ++ [.char '/'])) ++ blob := by simp
    rw [htext, ← hlength, List.take_left, List.drop_left]
    exact ⟨hfront, rfl⟩
  · rintro ⟨hfront, rfl⟩
    rw [front_eq] at hfront
    obtain ⟨lead, more, htake, hlead, hmore⟩ := sameUpToCase_append_iff.1 hfront
    obtain ⟨tag, slash, rfl, htag, hslash⟩ := sameUpToCase_append_iff.1 hmore
    rw [sameUpToCase_singleton_iff (by decide) (by decide)] at hslash
    refine ⟨lead, tag, hlead, htag, ?_⟩
    conv_lhs => rw [← List.take_append_drop 11 u, htake, hslash]
    simp

theorem IsLink.blob_unique {u blob blob' : Text} (h : IsLink u blob) (h' : IsLink u blob') :
    blob = blob' := by
  rw [← (isLink_iff_take.1 h).2, ← (isLink_iff_take.1 h').2]

/-- Only internal links are read, and each as its blob. -/
theorem decode_ok_iff {u : Text} {r : Record} :
    (decode u).outcome = .ok r ↔ ∃ blob, IsLink u blob ∧ (decodeBlob blob).outcome = .ok r := by
  constructor
  · intro h
    by_cases hlink : ∃ blob, IsLink u blob
    · obtain ⟨blob, hblob⟩ := hlink
      rw [decode_of_isLink hblob] at h
      exact ⟨blob, hblob, h⟩
    · obtain ⟨e, he, -⟩ := refusedAs_of_not_isLink (not_exists.1 hlink)
      rw [he] at h
      cases h
  · rintro ⟨blob, hblob, h⟩
    rwa [decode_of_isLink hblob]

theorem decodeBlob_ok_iff {blob : Text} {r : Record} :
    (decodeBlob blob).outcome = .ok r
      ↔ ∃ data, Codec.qr.decode blob = .ok data ∧ (Record.ofOctets none data).outcome = .ok r := by
  rw [decodeBlob, Traced.outcome_bind, bind_eq_ok_iff]
  simp only [Traced.outcome_ofExcept, mapError_eq_ok_iff]

end InternalForm

/-- A text is read as an internal link just when it is the front, up to the case of ASCII letters,
    with a blob over the alphabet whose octets are those of a record, and it is read as that
    record. No character beyond ASCII stands for a letter of the lead or the framing tag. -/
theorem internalLink_accepted_iff (u : Text) :
    (∀ r, (InternalForm.decode u).outcome = .ok r
        ↔ SameUpToCase (u.take 11) "BERTY://PB/".points
          ∧ ∃ data, Codec.qr.decode (u.drop 11) = .ok data
            ∧ (Record.ofOctets none data).outcome = .ok r)
      ∧ ((∃ r, (InternalForm.decode u).outcome = .ok r)
        ↔ SameUpToCase (u.take 11) "BERTY://PB/".points
          ∧ (∀ ch ∈ u.drop 11, ch ∈ Codec.qr.alphabet)
          ∧ ∃ data m, Codec.qr.decode (u.drop 11) = .ok data ∧ InviteMessage.read data = .ok m
            ∧ (m.kind = 1 ∨ (m.kind = 2 ∧ m.HasKnownGroupType)))
      ∧ (∀ lead, lower lead = lower LinkForm.internal.lead.points → ∀ c ∈ lead, c.toNat < 128)
      ∧ ∀ tag, lower tag = lower InternalForm.framing → ∀ c ∈ tag, c.toNat < 128 := by
  have hread : ∀ r, (InternalForm.decode u).outcome = .ok r
      ↔ SameUpToCase (u.take 11) InternalForm.front
        ∧ ∃ data, Codec.qr.decode (u.drop 11) = .ok data
          ∧ (Record.ofOctets none data).outcome = .ok r := by
    intro r
    rw [InternalForm.decode_ok_iff]
    simp only [InternalForm.isLink_iff_take, InternalForm.decodeBlob_ok_iff, and_assoc,
      exists_and_left, exists_eq_left']
  refine ⟨hread, ?_, ?_, ?_⟩
  · constructor
    · rintro ⟨r, h⟩
      obtain ⟨hfront, data, hdata, hr⟩ := (hread r).1 h
      obtain ⟨m, hm, hkind⟩ := Record.ofOctets_ok_iff.1 ⟨r, hr⟩
      exact ⟨hfront, Codec.qr.decode_ok_iff.1 ⟨data, hdata⟩, data, m, hdata, hm, hkind⟩
    · rintro ⟨hfront, -, data, m, hdata, hm, hkind⟩
      obtain ⟨r, hr⟩ := (@Record.ofOctets_ok_iff none data).2 ⟨m, hm, hkind⟩
      exact ⟨r, (hread r).2 ⟨hfront, data, hdata, hr⟩⟩
  · intro lead hlead
    exact ((lower_eq_iff LinkForm.internal.isPlainAscii_lead).1 hlead).ascii
      LinkForm.internal.isPlainAscii_lead
  · intro tag htag
    exact ((lower_eq_iff InternalForm.isPlainAscii_framing).1 htag).ascii
      InternalForm.isPlainAscii_framing

/-! ## The web form -/

namespace WebForm

/-- A web link is twenty-two code points that are the lead up to case, and its parts. -/
theorem isLink_iff_take {u : Text} {kind : Kind} {blob : Text} {query : Option Text} :
    IsLink u kind blob query
      ↔ SameUpToCase (u.take 22) LinkForm.web.lead.points ∧ .char '/' ∉ blob
        ∧ u.drop 22 = kind.tag.points ++ .char '/' :: (blob ++ behind (.char '/') query) := by
  constructor
  · rintro ⟨lead, hlead, hblob, rfl⟩
    have hlength : lead.length = 22 := LinkForm.length_of_sameUpToCase hlead
    rw [← hlength, List.take_left, List.drop_left]
    exact ⟨hlead, hblob, rfl⟩
  · rintro ⟨hlead, hblob, hrest⟩
    exact ⟨u.take 22, hlead, hblob, by rw [← hrest, List.take_append_drop]⟩

theorem IsLink.blob_eq {u : Text} {kind : Kind} {blob : Text} {query : Option Text}
    (h : IsLink u kind blob query) :
    blob = (cut (.char '/') ((cut (.char '/') (u.drop 22)).2.getD [])).1 := by
  obtain ⟨-, hslash, hdrop⟩ := isLink_iff_take.1 h
  have hcut : cut (.char '/') (blob ++ behind (.char '/') query) = (blob, query) :=
    cut_eq_iff.2 ⟨rfl, hslash⟩
  rw [hdrop, cut_tag, Option.getD_some, hcut]

theorem IsLink.blob_unique {u : Text} {kind kind' : Kind} {blob blob' : Text}
    {query query' : Option Text} (h : IsLink u kind blob query) (h' : IsLink u kind' blob' query') :
    blob = blob' := by
  rw [h.blob_eq, h'.blob_eq]

/-- Only web links with a blob are read, and each by its parts. -/
theorem decode_ok_iff {u : Text} {r : Record} :
    (decode u).outcome = .ok r
      ↔ ∃ kind blob query, IsLink u kind blob query ∧ blob ≠ []
          ∧ (decodeBlob kind blob (query.getD [])).outcome = .ok r := by
  constructor
  · intro h
    by_cases hlink : ∃ kind blob query, IsLink u kind blob query
    · obtain ⟨kind, blob, query, hlink⟩ := hlink
      rw [decode_of_isLink hlink] at h
      by_cases hblob : blob = []
      · rw [if_pos hblob] at h
        cases h
      · rw [if_neg hblob] at h
        exact ⟨kind, blob, query, hlink, hblob, h⟩
    · obtain ⟨e, he, -⟩ := refusedAs_of_not_isLink fun kind blob query h =>
        hlink ⟨kind, blob, query, h⟩
      rw [he] at h
      cases h
  · rintro ⟨kind, blob, query, hlink, hblob, h⟩
    rwa [decode_of_isLink hlink, if_neg hblob]

theorem readMetadata_ok_iff {query : Text} :
    (∃ pairs, readMetadata query = .ok pairs)
      ↔ Query.EscapesAll query
        ∧ ∀ piece ∈ query.splitOn (.char '&'), piece ≠ [] → Query.IsReadablePair piece := by
  rw [readMetadata, ← Query.wellEscaped_iff]
  by_cases hescaped : Query.wellEscaped query = true
  · rw [if_pos hescaped, ← Query.decode_ok_iff hescaped]
    cases Query.decode query <;> simp [hescaped]
  · simp [hescaped]

/-- A blob is read under a kind when its octets hold a message, of a known group type under the
    kind of groups, and when what the query text adds to it is read. -/
theorem decodeBlob_ok_iff {kind : Kind} {blob query : Text} :
    (∃ r, (decodeBlob kind blob query).outcome = .ok r)
      ↔ (∃ data m, Codec.base58.decode blob = .ok data ∧ InviteMessage.read data = .ok m
          ∧ (kind = .group → m.HasKnownGroupType))
        ∧ ∃ pairs, readMetadata query = .ok pairs := by
  have hkind : ∀ m : InviteMessage, ((kind.number : Int) = 1
      ∨ ((kind.number : Int) = 2 ∧ m.HasKnownGroupType))
      ↔ (kind = .group → m.HasKnownGroupType) := by
    intro m
    cases kind <;> simp [Kind.number]
  have hrecord : ∀ data, (∃ record, (Record.ofOctets (some (kind.number : Int)) data).outcome
      = .ok record) ↔ ∃ m, InviteMessage.read data = .ok m
        ∧ (kind = .group → m.HasKnownGroupType) := by
    intro data
    rw [Record.ofOctets_ok_iff]
    simp only [Option.getD_some, hkind]
  rw [decodeBlob]
  simp only [Traced.outcome_bind, Traced.outcome_ofExcept, Traced.outcome_pure,
    exists_bind_eq_ok_iff, mapError_eq_ok_iff, Except.ok.injEq, exists_eq', and_true]
  constructor
  · rintro ⟨data, hdata, record, hofOctets, hpairs⟩
    obtain ⟨m, hm, hgroup⟩ := (hrecord data).1 ⟨record, hofOctets⟩
    exact ⟨⟨data, m, hdata, hm, hgroup⟩, hpairs⟩
  · rintro ⟨⟨data, m, hdata, hm, hgroup⟩, hpairs⟩
    obtain ⟨record, hofOctets⟩ := (hrecord data).2 ⟨m, hm, hgroup⟩
    exact ⟨data, hdata, record, hofOctets, hpairs⟩

end WebForm

/-- A text is read as a web link just when it is the lead, up to the case of ASCII letters, with the
    tag of a kind, a slash, a blob over the alphabet whose octets hold a message, of a known group
    type under the kind of groups, and then nothing, or a slash and a query text in which every
    percent sign begins an escape and every name and value is readable. -/
theorem webLink_accepted_iff (u : Text) :
    (∃ r, (WebForm.decode u).outcome = .ok r)
      ↔ SameUpToCase (u.take 22) "https://berty.tech/id#".points
        ∧ ∃ (kind : Kind) (blob tail : Text),
          u.drop 22 = kind.tag.points ++ .char '/' :: (blob ++ tail)
          ∧ blob ≠ [] ∧ (∀ ch ∈ blob, ch ∈ Codec.base58.alphabet)
          ∧ (∃ data m, Codec.base58.decode blob = .ok data ∧ InviteMessage.read data = .ok m
            ∧ (kind = .group → m.HasKnownGroupType))
          ∧ (tail = [] ∨ ∃ q, tail = .char '/' :: q ∧ Query.EscapesAll q
            ∧ ∀ piece ∈ q.splitOn (.char '&'), piece ≠ [] → Query.IsReadablePair piece) := by
  have hslash : ∀ blob : Text, (∀ ch ∈ blob, ch ∈ Codec.base58.alphabet) → .char '/' ∉ blob := by
    intro blob hblob hmem
    exact absurd (hblob '/' hmem) (by decide)
  constructor
  · rintro ⟨r, h⟩
    obtain ⟨kind, blob, query, hlink, hblob, hr⟩ := WebForm.decode_ok_iff.1 h
    obtain ⟨hlead, -, hrest⟩ := WebForm.isLink_iff_take.1 hlink
    obtain ⟨⟨data, m, hdata, hm, hgroup⟩, hquery⟩ := WebForm.decodeBlob_ok_iff.1 ⟨r, hr⟩
    refine ⟨hlead, kind, blob, behind (.char '/') query, hrest, hblob,
      Codec.base58.decode_ok_iff.1 ⟨data, hdata⟩, ⟨data, m, hdata, hm, hgroup⟩, ?_⟩
    cases query with
    | none => exact Or.inl rfl
    | some q => exact Or.inr ⟨q, rfl, WebForm.readMetadata_ok_iff.1 hquery⟩
  · rintro ⟨hlead, kind, blob, tail, hrest, hblob, halphabet, hmessage, htail⟩
    -- what is read behind the blob is the empty query text where there is none
    obtain ⟨query, rfl, hquery⟩ : ∃ query, tail = behind (.char '/') query
        ∧ ∃ pairs, WebForm.readMetadata (query.getD []) = .ok pairs := by
      rcases htail with rfl | ⟨q, rfl, hq⟩
      · exact ⟨none, rfl, [], rfl⟩
      · exact ⟨some q, rfl, WebForm.readMetadata_ok_iff.2 hq⟩
    obtain ⟨r, hr⟩ := WebForm.decodeBlob_ok_iff.2 ⟨hmessage, hquery⟩
    have hlink := WebForm.isLink_iff_take.2 ⟨hlead, hslash blob halphabet, hrest⟩
    exact ⟨r, WebForm.decode_ok_iff.2 ⟨kind, blob, query, hlink, hblob, hr⟩⟩

end InviteLink
