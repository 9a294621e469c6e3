import InviteLink.Proofs.Candidate
import InviteLink.Proofs.Record.Kind

set_option autoImplicit false

/-! # The parts of a web link

The web link of a record is the lead, the tag of its kind, a slash, its blob and, for a record with
a name, one more segment that shows the name (`WebForm.toWebLink_eq`). The blob is made of the
record without its name, so records that differ in nothing else share it, and all that a name
changes stands behind it.

The tag in front of the blob says what the blob is read as, and nothing vouches for it. But a blob
holds the inner message of one kind only, so under the tag of the other kind there is nothing in
it: what is read has no keys (`Record.ofOctets_other`), whatever the record was, and may not be
shared. -/

namespace InviteLink

namespace WebForm

/-! ## The link of a record -/

/-- The segment that shows a name; there is none for the empty name. -/
def nameSegment (name : ScalarText) : Text :=
  if name = [] then [] else "/name=".points ++ Query.escape name

theorem behind_queryOf (name : ScalarText) :
    behind (.char '/') (queryOf name) = nameSegment name := by
  have hkey : Query.escape "name".toList = "name".points := by decide +kernel
  unfold queryOf nameSegment
  split_ifs with hname
  · rfl
  · rw [pairsOf, if_neg hname, Query.encode, Query.encodePair, hkey, behind]
    rfl

/-- The shared link of a record: the name is in its last segment, all else in front of that. -/
theorem toWebLink_eq {r : Record} {name : ScalarText} (h : r.IsShareable)
    (hname : r.displayName = name.map .char) :
    r.toWebLink.outcome = .ok ("https://berty.tech/id#".points
      ++ (r.kind.tag.points ++ .char '/' :: (blobOf r ++ nameSegment name))) := by
  rw [Record.toWebLink_ok_iff]
  exact ⟨h, name, hname, by rw [linkOf, behind_queryOf]; rfl⟩

/-- A name shows as one segment, with no slash but the one in front. -/
theorem slash_not_mem_escape (name : ScalarText) : .char '/' ∉ Query.escape name :=
  Query.not_mem_escape (by decide) name

end WebForm

/-! ## The name -/

namespace Record

theorem isShareable_withDisplayName_iff (name : Text) {r : Record} :
    (r.withDisplayName name).IsShareable ↔ r.IsShareable := by
  cases r <;> exact Iff.rfl

/-- Records that differ in their names at most. -/
def SameButName (r r' : Record) : Prop := r.withDisplayName [] = r'.withDisplayName []

theorem SameButName.kind_eq {r r' : Record} (h : r.SameButName r') : r.kind = r'.kind := by
  rw [← kind_withDisplayName [] r, h, kind_withDisplayName]

theorem SameButName.isShareable {r r' : Record} (h : r.SameButName r') (hr : r.IsShareable) :
    r'.IsShareable := by
  rw [← isShareable_withDisplayName_iff []] at hr ⊢
  rwa [← h]

theorem SameButName.blobOf_eq {r r' : Record} (h : r.SameButName r') :
    WebForm.blobOf r = WebForm.blobOf r' := by
  have hoctets := WebForm.toOctets_withDisplayName_nil r
  rw [h, WebForm.toOctets_withDisplayName_nil, Except.ok.injEq] at hoctets
  rw [WebForm.blobOf, WebForm.blobOf, hoctets]

end Record

/-- The web links of two records that differ in their names at most are the same up to the end of
    their blobs. The octets of the blob are read, under the kind that the link states, as the record
    with the empty name and all else as it was; and what follows the blob is one segment that shows
    the name, or nothing if there is no name. -/
theorem name_outside_blob {r r' : Record} {name name' : ScalarText}
    (h : r.requireShareable.outcome = .ok ()) (hsame : r.SameButName r')
    (hname : r.displayName = name.map .char) (hname' : r'.displayName = name'.map .char) :
    ∃ blob data,
      r.toWebLink.outcome = .ok ("https://berty.tech/id#".points
        ++ (r.kind.tag.points ++ .char '/' :: (blob ++ WebForm.nameSegment name)))
      ∧ r'.toWebLink.outcome = .ok ("https://berty.tech/id#".points
        ++ (r.kind.tag.points ++ .char '/' :: (blob ++ WebForm.nameSegment name')))
      ∧ (∀ ch ∈ blob, ch ∈ Codec.base58.alphabet)
      ∧ Codec.base58.decode blob = .ok data
      ∧ (Record.ofOctets (some r.kind.number) data).outcome = .ok (r.withDisplayName [])
      ∧ ∀ name, (WebForm.nameSegment name = [] ↔ name = []) ∧ .char '/' ∉ Query.escape name := by
  have hr := Record.requireShareable_ok_iff.1 h
  have hlink' := WebForm.toWebLink_eq (hsame.isShareable hr) hname'
  rw [← hsame.kind_eq, ← hsame.blobOf_eq] at hlink'
  have hrecord := Record.ofOctets_kind_toOctets (WebForm.toOctets_withDisplayName_nil r)
  rw [Record.kind_withDisplayName] at hrecord
  refine ⟨WebForm.blobOf r, WebForm.octetsOf r, WebForm.toWebLink_eq hr hname, hlink',
    Codec.base58.encode_subset _, Codec.base58.decode_encode _, ?_, ?_⟩
  · rw [hrecord, Traced.outcome_pure]
  · intro name
    refine ⟨?_, WebForm.slash_not_mem_escape name⟩
    unfold WebForm.nameSegment
    split_ifs with hempty <;> simp [hempty, String.points]

/-- The names of two contacts with the same keys, behind one blob. -/
theorem name_outside_blob_contact :
    ∃ blob,
      (Record.contact ⟨[1], [2], "A".points⟩).toWebLink.outcome
        = .ok ("https://berty.tech/id#".points
          ++ ("contact".points ++ .char '/' :: (blob ++ "/name=A".points)))
      ∧ (Record.contact ⟨[1], [2], "é/".points⟩).toWebLink.outcome
        = .ok ("https://berty.tech/id#".points
          ++ ("contact".points ++ .char '/' :: (blob ++ "/name=%C3%A9%2F".points))) := by
  have hshareable : (Record.contact ⟨[1], [2], "A".points⟩).requireShareable.outcome
      = .ok () := rfl
  have hsame : (Record.contact ⟨[1], [2], "A".points⟩).SameButName
      (Record.contact ⟨[1], [2], "é/".points⟩) := rfl
  have hsegment : WebForm.nameSegment "A".toList = "/name=A".points := by decide +kernel
  have hsegment' : WebForm.nameSegment "é/".toList = "/name=%C3%A9%2F".points := by decide +kernel
  obtain ⟨blob, data, hlink, hlink', -⟩ := name_outside_blob hshareable hsame rfl rfl
  rw [hsegment] at hlink
  rw [hsegment'] at hlink'
  exact ⟨blob, hlink, hlink'⟩

/-! ## The tag -/

theorem Record.adoptName_keyless (kind : Kind) (name : Text) :
    (keyless kind []).adoptName name = keyless kind name := by
  cases kind <;> rfl

theorem Candidate.isShareableAs_keyless (kind kind' : Kind) (name : Text) :
    ((Candidate.record (Record.keyless kind name)).isShareableAs kind').outcome = .ok false := by
  cases kind with
  | contact => exact isShareableAs_of_refused (e := .noAccountKey) rfl kind'
  | group => exact isShareableAs_of_refused (e := .noDescriptor) rfl kind'

/-- With the other tag in place of its own, the web link of a record is still a link, but what it
    is read as has the name of the record and none of its keys, and may not be shared as either
    kind. -/
theorem retagged_link_keyless {r : Record} (h : r.requireShareable.outcome = .ok ())
    (hname : r.displayName.isScalar = true) :
    ∃ rest,
      r.toWebLink.outcome
        = .ok ("https://berty.tech/id#".points ++ (r.kind.tag.points ++ .char '/' :: rest))
      ∧ (WebForm.decode ("https://berty.tech/id#".points
          ++ (r.kind.other.tag.points ++ .char '/' :: rest))).outcome
        = .ok (Record.keyless r.kind.other r.displayName)
      ∧ ∀ kind, ((Candidate.record (Record.keyless r.kind.other r.displayName)).isShareableAs
          kind).outcome = .ok false := by
  have hr := Record.requireShareable_ok_iff.1 h
  obtain ⟨name, hname⟩ := exists_eq_map_char_iff.2 hname
  refine ⟨WebForm.blobOf r ++ behind (.char '/') (WebForm.queryOf name), ?_, ?_, ?_⟩
  · rw [WebForm.toWebLink_eq hr hname, WebForm.behind_queryOf]
  · have hlink : WebForm.IsLink ("https://berty.tech/id#".points ++ (r.kind.other.tag.points
        ++ .char '/' :: (WebForm.blobOf r ++ behind (.char '/') (WebForm.queryOf name))))
        r.kind.other (WebForm.blobOf r) (WebForm.queryOf name) :=
      ⟨LinkForm.web.lead.points, .refl _, WebForm.slash_not_mem_blobOf r, rfl⟩
    have hrecord := Record.ofOctets_other (WebForm.toOctets_withDisplayName_nil r)
    rw [Record.kind_withDisplayName] at hrecord
    have hdecode := WebForm.decodeBlob_queryOf hrecord name
    rw [Record.adoptName_keyless, ← hname] at hdecode
    rw [WebForm.decode_of_isLink hlink, if_neg (WebForm.blobOf_ne_nil r), WebForm.blobOf, hdecode,
      Traced.outcome_pure]
  · intro kind
    exact Candidate.isShareableAs_keyless _ kind _

/-- A group under the tag of contacts: a name and no keys. -/
theorem retagged_link_keyless_group :
    ∃ rest,
      (Record.group ⟨some ⟨[1], [2], [3], .multiMember, [4]⟩, "B".points⟩).toWebLink.outcome
        = .ok ("https://berty.tech/id#".points ++ ("group".points ++ .char '/' :: rest))
      ∧ (WebForm.decode ("https://berty.tech/id#".points
          ++ ("contact".points ++ .char '/' :: rest))).outcome
        = .ok (.contact ⟨[], [], "B".points⟩)
      ∧ ∀ kind, ((Candidate.record (.contact ⟨[], [], "B".points⟩)).isShareableAs kind).outcome
        = .ok false := by
  have hshareable : (Record.group ⟨some ⟨[1], [2], [3], .multiMember, [4]⟩,
      "B".points⟩).requireShareable.outcome = .ok () := rfl
  exact retagged_link_keyless hshareable rfl

end InviteLink
