import InviteLink.Proofs.Link.Accepted
import InviteLink.Proofs.Link.Parts
import InviteLink.Proofs.Refusal

set_option autoImplicit false

/-! # What is logged of a refused link

A link that is refused leaves the notice of the stage that refuses it, if there is one, and a last
line with its form, its length and the words of the refusal (`Record.lines_ofLink`). Of what the
text holds besides, the lines show what the words show and no more (`Refusal.report_eq_iff`): texts
that look alike are logged alike just when they are refused in the same words.

The words are not always free of the text. A link whose first segment is no known tag is refused
with that segment quoted, all of it, and whoever sees the lines sees the segment
(`LinkForm.LacksTag.lines_eq_iff`). When the tag of a link is left out, its blob stands there. -/

namespace InviteLink

/-! ## The lines of a refusal -/

theorem Event.linkRefused_line_eq_iff (form : Option LinkForm) (length : Nat) {e e' : Refusal} :
    (linkRefused form length e).line = (linkRefused form length e').line
      ↔ e.message = e'.message := by
  have hmessage : (linkRefused form length e).message = (linkRefused form length e').message
      ↔ e.message = e'.message := String.append_right_inj _
  rw [← hmessage]
  constructor
  · intro h
    exact congrArg (fun line => line.2.2) h
  · intro h
    rw [line, h]
    rfl

/-- The lines for a link that is refused: the notice of the cause, and the refusal. -/
def Refusal.report (form : Option LinkForm) (length size : Nat) (e : Refusal) :
    List (String × String × String) :=
  (e.notice size).map Event.line ++ [(Event.linkRefused form length e).line]

/-- The lines of a refusal tell its words, and nothing of the cause that its words do not tell. -/
theorem Refusal.report_eq_iff {form : Option LinkForm} {length size : Nat} {e e' : Refusal} :
    e.report form length size = e'.report form length size ↔ e.message = e'.message := by
  rw [← Event.linkRefused_line_eq_iff form length]
  constructor
  · intro h
    exact List.singleton_inj.1 (List.append_inj' h rfl).2
  · intro h
    rw [report, report, h,
      notice_lines_of_message_eq ((Event.linkRefused_line_eq_iff form length).1 h)]

/-! ## Octets and notices -/

/-- The text is a link of either form, and its blob is decoded to these octets. -/
def HoldsOctets (u : Text) (data : Bytes) : Prop :=
  (∃ blob, InternalForm.IsLink u blob ∧ Codec.qr.decode blob = .ok data)
    ∨ ∃ kind blob query, WebForm.IsLink u kind blob query ∧ blob ≠ []
      ∧ Codec.base58.decode blob = .ok data

/-- A text holds no other octets than those it holds. -/
theorem HoldsOctets.unique {u : Text} {data data' : Bytes} (h : HoldsOctets u data)
    (h' : HoldsOctets u data') : data = data' := by
  obtain ⟨blob, hlink, hdata⟩ | ⟨kind, blob, query, hlink, -, hdata⟩ := h
  · obtain ⟨blob', hlink', hdata'⟩ | ⟨kind', blob', query', hlink', -, -⟩ := h'
    · obtain rfl : blob = blob' := hlink.blob_unique hlink'
      exact Except.ok.inj (hdata.symm.trans hdata')
    · exact absurd hlink.begins hlink'.begins.not_internal_of_web
  · obtain ⟨blob', hlink', -⟩ | ⟨kind', blob', query', hlink', -, hdata'⟩ := h'
    · exact absurd hlink'.begins hlink.begins.not_internal_of_web
    · obtain rfl : blob = blob' := hlink.blob_unique hlink'
      exact Except.ok.inj (hdata.symm.trans hdata')

/-- A notice about a blob counts the octets of that blob, where it was decoded at all. -/
theorem Traced.notices_decode {α : Type} {c : Codec} {f : Bytes → Traced Refusal α}
    (hf : ∀ data, (f data).Notices data.length) (blob : Text) :
    (∃ data, c.decode blob = .ok data
        ∧ (ofExcept ((c.decode blob).mapError .foreignCharacter) >>= f).Notices data.length)
      ∨ ∀ size, (ofExcept ((c.decode blob).mapError .foreignCharacter) >>= f).Notices size := by
  cases hdata : c.decode blob with
  | error fault => exact Or.inr fun _ => rfl
  | ok data =>
      refine Or.inl ⟨data, rfl, ?_⟩
      refine (notices_ofExcept ?_).bind ?_
      · rintro e h
        cases h
      · rintro a h
        cases h
        exact hf data

theorem WebForm.notices_readMetadata (query : Text) (size : Nat) :
    (Traced.ofExcept (readMetadata query)).Notices size := by
  apply Traced.notices_ofExcept
  intro e h
  unfold readMetadata at h
  split at h
  · split at h <;> cases h
    rfl
  · cases h
    rfl

theorem InternalForm.notices_decodeBlob (blob : Text) :
    (∃ data, Codec.qr.decode blob = .ok data ∧ (decodeBlob blob).Notices data.length)
      ∨ ∀ size, (decodeBlob blob).Notices size :=
  Traced.notices_decode (Record.notices_ofOctets none) blob

theorem WebForm.notices_decodeBlob (kind : Kind) (blob query : Text) :
    (∃ data, Codec.base58.decode blob = .ok data
        ∧ (decodeBlob kind blob query).Notices data.length)
      ∨ ∀ size, (decodeBlob kind blob query).Notices size := by
  unfold decodeBlob
  refine Traced.notices_decode (fun data => ?_) blob
  refine (Record.notices_ofOctets _ data).bind fun record _ => ?_
  exact (notices_readMetadata query _).bind fun pairs _ => Traced.notices_pure _

/-- Whatever form a text is taken for, the only notice of its refusal is that of the cause. -/
theorem LinkForm.notices_decode (form : Option LinkForm) (u : Text) :
    (∃ data, HoldsOctets u data ∧ (LinkForm.decode form u).Notices data.length)
      ∨ ∀ size, (LinkForm.decode form u).Notices size := by
  cases form with
  | none => exact Or.inr fun _ => rfl
  | some f =>
      cases f with
      | internal =>
          obtain ⟨blob, hlink, hdecode⟩ | ⟨-, hnotices⟩ := InternalForm.decode_cases u
          · rw [LinkForm.decode, hdecode]
            obtain ⟨data, hdata, hnotices⟩ | hnotices := InternalForm.notices_decodeBlob blob
            · exact Or.inl ⟨data, Or.inl ⟨blob, hlink, hdata⟩, hnotices⟩
            · exact Or.inr hnotices
          · exact Or.inr hnotices
      | web =>
          obtain ⟨kind, blob, query, hlink, hblob, hdecode⟩ | ⟨-, hnotices⟩ :=
            WebForm.decode_cases u
          · rw [LinkForm.decode, hdecode]
            obtain ⟨data, hdata, hnotices⟩ | hnotices :=
              WebForm.notices_decodeBlob kind blob (query.getD [])
            · exact Or.inl ⟨data, Or.inr ⟨kind, blob, query, hlink, hblob, hdata⟩, hnotices⟩
            · exact Or.inr hnotices
          · exact Or.inr hnotices

/-- A refused link leaves the notice of its cause and a line with its form, its length and the words
    of the refusal. -/
theorem Record.lines_ofLink {u : Text} {e : Refusal} {size : Nat} (hu : u ≠ [])
    (h : (ofLink u).outcome = .error e)
    (hnotices : (LinkForm.decode (LinkForm.detect u) u).Notices size) :
    (ofLink u).lines = e.report (LinkForm.detect u) u.length size := by
  rw [outcome_ofLink hu] at h
  have hevents : (ofLink u).events = (LinkForm.decode (LinkForm.detect u) u).events
      ++ [.linkRefused (LinkForm.detect u) u.length e] := by
    rw [ofLink, if_neg hu]
    exact Traced.events_logFault_bind h _
  rw [Traced.Notices, h] at hnotices
  rw [Traced.lines, hevents, List.map_append, hnotices]
  rfl

/-! ## Texts that look alike -/

/-- The tag that a form knows a first segment for. -/
def LinkForm.tag? (f : LinkForm) (segment : Text) : Option Text :=
  match f with
  | .internal =>
      if lower segment = lower InternalForm.framing then some InternalForm.framing else none
  | .web => (Kind.ofTag? segment).map fun kind => kind.tag.points

/-- The known tag in the first segment of a text, if there is one. -/
def statedTag? (u : Text) : Option Text :=
  (LinkForm.detect u).bind fun f => f.tag? (cut (.char '/') (u.drop f.lead.length)).1

theorem LinkForm.statedTag?_of_lead {f : LinkForm} {lead segment : Text}
    (hlead : SameUpToCase lead f.lead.points) (hsegment : .char '/' ∉ segment) (rest : Text) :
    statedTag? (lead ++ (segment ++ .char '/' :: rest)) = f.tag? segment := by
  have hcut : cut (.char '/') (segment ++ .char '/' :: rest) = (segment, some rest) :=
    cut_eq_iff.2 ⟨rfl, hsegment⟩
  rw [statedTag?, detect_eq_some_iff.2 ⟨lead, _, rfl, hlead⟩, Option.bind_some,
    ← length_of_sameUpToCase hlead, List.drop_left, hcut]

theorem InternalForm.IsLink.statedTag?_eq {u blob : Text} (h : IsLink u blob) :
    statedTag? u = some framing := by
  obtain ⟨lead, tag, hlead, htag, rfl⟩ := h
  rw [LinkForm.statedTag?_of_lead hlead (htag.not_mem (by decide) (by decide)), LinkForm.tag?,
    if_pos ((lower_eq_iff isPlainAscii_framing).2 htag)]

theorem WebForm.IsLink.statedTag?_eq {u : Text} {kind : Kind} {blob : Text} {query : Option Text}
    (h : IsLink u kind blob query) : statedTag? u = some kind.tag.points := by
  obtain ⟨lead, hlead, -, rfl⟩ := h
  rw [LinkForm.statedTag?_of_lead hlead (by cases kind <;> decide), LinkForm.tag?, Kind.ofTag?_tag,
    Option.map_some]

/-- Texts of one form, one length and one tag; blobs that are decoded are of as many octets. -/
structure LookAlike (u v : Text) : Prop where
  form : LinkForm.detect u = LinkForm.detect v
  length : u.length = v.length
  tag : statedTag? u = statedTag? v
  octets : ∀ data data', HoldsOctets u data → HoldsOctets v data' → data.length = data'.length

theorem LookAlike.exists_notices {u v : Text} (h : LookAlike u v) :
    ∃ size, (LinkForm.decode (LinkForm.detect u) u).Notices size
      ∧ (LinkForm.decode (LinkForm.detect v) v).Notices size := by
  obtain ⟨data, hdata, hu⟩ | hu := LinkForm.notices_decode (LinkForm.detect u) u
  · obtain ⟨data', hdata', hv⟩ | hv := LinkForm.notices_decode (LinkForm.detect v) v
    · exact ⟨_, hu, h.octets data data' hdata hdata' ▸ hv⟩
    · exact ⟨_, hu, hv _⟩
  · obtain ⟨data', -, hv⟩ | hv := LinkForm.notices_decode (LinkForm.detect v) v
    · exact ⟨_, hu _, hv⟩
    · exact ⟨0, hu 0, hv 0⟩

/-- Texts that look alike are reported with the same form, length and number of octets. -/
theorem LookAlike.exists_report {u v : Text} {e e' : Refusal} (h : LookAlike u v) (hne : u ≠ [])
    (hu : (Record.ofLink u).outcome = .error e) (hv : (Record.ofLink v).outcome = .error e') :
    ∃ size, (Record.ofLink u).lines = e.report (LinkForm.detect v) v.length size
      ∧ (Record.ofLink v).lines = e'.report (LinkForm.detect v) v.length size := by
  have hne' : v ≠ [] := by
    rintro rfl
    exact hne (List.length_eq_zero_iff.1 h.length)
  obtain ⟨size, hnotices, hnotices'⟩ := h.exists_notices
  have hlines := Record.lines_ofLink hne hu hnotices
  rw [h.form, h.length] at hlines
  exact ⟨size, hlines, Record.lines_ofLink hne' hv hnotices'⟩

/-! ## Segments that are no tags -/

namespace LinkForm

/-- A text of a form whose first segment is none of its tags. -/
def LacksTag (f : LinkForm) (u segment : Text) : Prop :=
  ∃ lead rest, SameUpToCase lead f.lead.points ∧ .char '/' ∉ segment ∧ f.tag? segment = none
    ∧ u = lead ++ (segment ++ .char '/' :: rest)

/-- The refusal of a first segment that is no tag. -/
def tagRefusal (f : LinkForm) (segment : Text) : Refusal :=
  match f with
  | .internal => .unsupportedFraming segment
  | .web => .unknownTag segment

variable {f : LinkForm} {u segment : Text}

/-- Only a text that states a known tag holds octets. -/
theorem statedTag?_ne_none {data : Bytes} (h : HoldsOctets u data) : statedTag? u ≠ none := by
  obtain ⟨blob, hlink, -⟩ | ⟨kind, blob, query, hlink, -, -⟩ := h
  · rw [hlink.statedTag?_eq]
    exact Option.some_ne_none _
  · rw [hlink.statedTag?_eq]
    exact Option.some_ne_none _

theorem LacksTag.begins (h : f.LacksTag u segment) : f.Begins u := by
  obtain ⟨lead, rest, hlead, -, -, rfl⟩ := h
  exact ⟨lead, _, rfl, hlead⟩

theorem LacksTag.statedTag?_eq (h : f.LacksTag u segment) : statedTag? u = none := by
  obtain ⟨lead, rest, hlead, hsegment, htag, rfl⟩ := h
  rw [statedTag?_of_lead hlead hsegment, htag]

theorem LacksTag.not_holdsOctets (h : f.LacksTag u segment) (data : Bytes) : ¬HoldsOctets u data :=
  fun hdata => statedTag?_ne_none hdata h.statedTag?_eq

theorem LacksTag.outcome_ofLink (h : f.LacksTag u segment) :
    (Record.ofLink u).outcome = .error (f.tagRefusal segment) := by
  rw [Record.outcome_ofLink h.begins.ne_nil, detect_eq_some_iff.2 h.begins]
  obtain ⟨lead, rest, hlead, hsegment, htag, rfl⟩ := h
  have hcut : cut (.char '/') (segment ++ .char '/' :: rest) = (segment, some rest) :=
    cut_eq_iff.2 ⟨rfl, hsegment⟩
  cases f with
  | internal =>
      have htag' : ¬lower segment = lower InternalForm.framing := by
        intro hlower
        rw [tag?, if_pos hlower] at htag
        cases htag
      rw [decode, InternalForm.decode, if_pos (hasLead_iff_begins.2 ⟨lead, _, rfl, hlead⟩),
        ← length_of_sameUpToCase hlead, List.drop_left, hcut]
      simp only [htag']
      rfl
  | web =>
      have htag' : Kind.ofTag? segment = none := Option.map_eq_none_iff.1 htag
      rw [decode, WebForm.decode_of_lead hlead, WebForm.decodeFragment, if_neg (by simp), hcut]
      simp only [htag']
      rfl

theorem tagRefusal_message_eq_iff {segment' : Text} :
    (f.tagRefusal segment).message = (f.tagRefusal segment').message ↔ segment = segment' := by
  constructor
  · intro h
    cases f with
    | internal => exact Refusal.unsupportedFraming.inj (Refusal.eq_unsupportedFraming_of_message h)
    | web => exact Refusal.unknownTag.inj (Refusal.eq_unknownTag_of_message h)
  · rintro rfl
    rfl

/-- Texts of a form and a length whose first segments are no tags look alike. -/
theorem LacksTag.lookAlike {v segment' : Text} (hu : f.LacksTag u segment)
    (hv : f.LacksTag v segment') (hlength : u.length = v.length) : LookAlike u v where
  form := by rw [detect_eq_some_iff.2 hu.begins, detect_eq_some_iff.2 hv.begins]
  length := hlength
  tag := by rw [hu.statedTag?_eq, hv.statedTag?_eq]
  octets := fun data _ hdata => absurd hdata (hu.not_holdsOctets data)

/-- A first segment that is no tag is logged: whoever sees the lines knows it. -/
theorem LacksTag.lines_eq_iff {v segment' : Text} (hu : f.LacksTag u segment)
    (hv : f.LacksTag v segment') (hlength : u.length = v.length) :
    (Record.ofLink u).lines = (Record.ofLink v).lines ↔ segment = segment' := by
  obtain ⟨size, hlines, hlines'⟩ := (hu.lookAlike hv hlength).exists_report hu.begins.ne_nil
    hu.outcome_ofLink hv.outcome_ofLink
  rw [hlines, hlines', Refusal.report_eq_iff, tagRefusal_message_eq_iff]

end LinkForm

/-! ## Links without their tags -/

namespace WebForm

/-- No blob of a record is the tag of a kind: the tags are blobs too, but of corrupt messages. -/
theorem ofTag?_blobOf (r : Record) : Kind.ofTag? (blobOf r) = none := by
  have htag : ∀ kind : Kind, ∃ data, Codec.base58.decode kind.tag.points = .ok data
      ∧ Wire.InviteMessage.read data = .error .corrupt := by
    intro kind
    cases kind with
    | contact => exact ⟨[0x01, 0x3d, 0x60, 0x0a, 0xd9, 0x0d], by decide +kernel, by decide +kernel⟩
    | group => exact ⟨[0x1a, 0xe2, 0xa7, 0x87], by decide +kernel, by decide +kernel⟩
  cases hkind : Kind.ofTag? (blobOf r) with
  | none => rfl
  | some kind =>
      obtain ⟨data, hdata, hread⟩ := htag kind
      rw [← Kind.eq_tag_of_ofTag? hkind, blobOf, Codec.base58.decode_encode,
        Except.ok.injEq] at hdata
      rw [← hdata, octetsOf, Wire.InviteMessage.read_write (r.fits_messageNamed false [])] at hread
      cases hread

/-- The blobs of two records of a kind are the same just when the records are, but for their
    names. -/
theorem blobOf_eq_iff {r r' : Record} (hkind : r.kind = r'.kind) :
    blobOf r = blobOf r' ↔ r.SameButName r' := by
  constructor
  · intro h
    have hoctets := congrArg Codec.base58.decode h
    rw [blobOf, blobOf, Codec.base58.decode_encode, Codec.base58.decode_encode,
      Except.ok.injEq] at hoctets
    refine Record.toOctets_inj ?_ (toOctets_withDisplayName_nil r) ?_
    · rw [Record.kind_withDisplayName, Record.kind_withDisplayName, hkind]
    · rw [toOctets_withDisplayName_nil, hoctets]
  · exact Record.SameButName.blobOf_eq

/-- The web link of a record under a name without the tag and the slash behind it. -/
def untagged (r : Record) (name : ScalarText) : Text :=
  LinkForm.web.lead.points ++ (blobOf r ++ nameSegment name)

theorem lacksTag_untagged (r : Record) {name : ScalarText} (hname : name ≠ []) :
    LinkForm.web.LacksTag (untagged r name) (blobOf r) := by
  refine ⟨LinkForm.web.lead.points, "name=".points ++ Query.escape name, .refl _,
    slash_not_mem_blobOf r, ?_, ?_⟩
  · rw [LinkForm.tag?, ofTag?_blobOf, Option.map_none]
  · rw [untagged, nameSegment, if_neg hname]
    rfl

/-- When the web link of a record with a name lacks its tag, what is logged of it tells the record:
    of two such records of a kind, whose texts are equally long, the lines are the same only if the
    records are, but for their names. -/
theorem untagged_lines_eq_iff {r r' : Record} {name name' : ScalarText} (hkind : r.kind = r'.kind)
    (hname : name ≠ []) (hname' : name' ≠ [])
    (hlength : (untagged r name).length = (untagged r' name').length) :
    (Record.ofLink (untagged r name)).lines = (Record.ofLink (untagged r' name')).lines
      ↔ r.SameButName r' := by
  rw [(lacksTag_untagged r hname).lines_eq_iff (lacksTag_untagged r' hname') hlength,
    blobOf_eq_iff hkind]

end WebForm

/-! ## What the lines show -/

/-- Two refused texts that look alike are logged alike just when they are refused in the same
    words. -/
theorem refused_lines_eq_iff {u v : Text} {e e' : Refusal}
    (hu : (Record.ofLink u).outcome = .error e) (hv : (Record.ofLink v).outcome = .error e')
    (h : LookAlike u v) :
    (Record.ofLink u).lines = (Record.ofLink v).lines ↔ e.message = e'.message := by
  by_cases hne : u = []
  · obtain rfl : v = [] := List.length_eq_zero_iff.1 (h.length ▸ hne ▸ rfl)
    subst hne
    rw [hu, Except.error.injEq] at hv
    rw [hv]
    exact iff_of_true rfl rfl
  · obtain ⟨size, hlines, hlines'⟩ := h.exists_report hne hu hv
    rw [hlines, hlines', Refusal.report_eq_iff]

/-- Two internal links with blobs of two octets that are no message, logged alike. -/
theorem refused_lines_eq_iff_corrupt :
    ∃ u v e, u = "BERTY://PB/62".points ∧ v = "BERTY://PB/63".points
      ∧ (Record.ofLink u).outcome = .error e ∧ (Record.ofLink v).outcome = .error e
      ∧ LookAlike u v ∧ (Record.ofLink u).lines = (Record.ofLink v).lines := by
  have hlink : InternalForm.IsLink "BERTY://PB/62".points "62".points :=
    ⟨"BERTY://".points, "PB".points, .refl _, .refl _, by decide⟩
  have hlink' : InternalForm.IsLink "BERTY://PB/63".points "63".points :=
    ⟨"BERTY://".points, "PB".points, .refl _, .refl _, by decide⟩
  have hdecode : Codec.qr.decode "62".points = .ok [0x05, 0x5c] := by decide +kernel
  have hdecode' : Codec.qr.decode "63".points = .ok [0x05, 0x5d] := by decide +kernel
  have hu : (Record.ofLink "BERTY://PB/62".points).outcome = .error (.malformedBlob .corrupt) := by
    rw [InternalForm.outcome_ofLink_of_isLink hlink, InternalForm.decodeBlob, hdecode]
    decide +kernel
  have hv : (Record.ofLink "BERTY://PB/63".points).outcome = .error (.malformedBlob .corrupt) := by
    rw [InternalForm.outcome_ofLink_of_isLink hlink', InternalForm.decodeBlob, hdecode']
    decide +kernel
  have halike : LookAlike "BERTY://PB/62".points "BERTY://PB/63".points :=
    { form := by
        rw [LinkForm.detect_eq_some_iff.2 hlink.begins, LinkForm.detect_eq_some_iff.2 hlink'.begins]
      length := by decide +kernel
      tag := by rw [hlink.statedTag?_eq, hlink'.statedTag?_eq]
      octets := by
        intro data data' hdata hdata'
        rw [hdata.unique (.inl ⟨_, hlink, hdecode⟩), hdata'.unique (.inl ⟨_, hlink', hdecode'⟩)]
        rfl }
  exact ⟨_, _, _, rfl, rfl, hu, hv, halike, (refused_lines_eq_iff hu hv halike).2 rfl⟩

/-- The web links of two groups, which differ in the secret alone, without the tag: the texts look
    alike and are refused as the same class, but the lines are different. -/
theorem untagged_lines_differ :
    ∃ u v, u = "https://berty.tech/id#85XAT4uUZenBu2cUhLwQEZiHxkoHJm/name=Team".points
      ∧ v = "https://berty.tech/id#85XAT4uUZenBu2v4PGhDZz7Uhc62UD/name=Team".points
      ∧ (Record.ofLink u).RefusedAs .invalid ∧ (Record.ofLink v).RefusedAs .invalid
      ∧ LookAlike u v ∧ (∀ data, ¬HoldsOctets u data ∧ ¬HoldsOctets v data)
      ∧ (Record.ofLink u).lines ≠ (Record.ofLink v).lines := by
  have hu : LinkForm.web.LacksTag
      "https://berty.tech/id#85XAT4uUZenBu2cUhLwQEZiHxkoHJm/name=Team".points
      "85XAT4uUZenBu2cUhLwQEZiHxkoHJm".points :=
    ⟨LinkForm.web.lead.points, "name=Team".points, .refl _, by decide, by decide, by decide +kernel⟩
  have hv : LinkForm.web.LacksTag
      "https://berty.tech/id#85XAT4uUZenBu2v4PGhDZz7Uhc62UD/name=Team".points
      "85XAT4uUZenBu2v4PGhDZz7Uhc62UD".points :=
    ⟨LinkForm.web.lead.points, "name=Team".points, .refl _, by decide, by decide, by decide +kernel⟩
  have hlength : "https://berty.tech/id#85XAT4uUZenBu2cUhLwQEZiHxkoHJm/name=Team".points.length
      = "https://berty.tech/id#85XAT4uUZenBu2v4PGhDZz7Uhc62UD/name=Team".points.length := by
    decide +kernel
  refine ⟨_, _, rfl, rfl, ⟨_, hu.outcome_ofLink, rfl⟩, ⟨_, hv.outcome_ofLink, rfl⟩,
    hu.lookAlike hv hlength, fun data => ⟨hu.not_holdsOctets data, hv.not_holdsOctets data⟩, ?_⟩
  rw [Ne, hu.lines_eq_iff hv hlength]
  decide +kernel

end InviteLink
