import InviteLink.Proofs.Codec.Positional
import InviteLink.Proofs.Link.Grammar
import InviteLink.Proofs.Query
import InviteLink.Proofs.Record.Serial
import InviteLink.Proofs.Record.Shareable

set_option autoImplicit false

/-! # Links are read as the records they were made of

The link of a record that may be shared is put together from the record and the characters of its
name (`linkOf`); only where there are such characters is there a link (`encode?_of_isShareable`).
It has the shape of its form, with the octets of the record as its blob, so reading it means reading
its parts, each of which is read as it was written (`decodeBlob_encode`). In the internal form the
blob is the whole record, in whatever characters of its alphabet, the slash among them. In the web
form the blob holds no slash, and the name comes back from the query text. -/

namespace InviteLink

/-! ## The internal form -/

namespace InternalForm

/-- The blob of a record under a name: all of it, the kind included. -/
def blobOf (r : Record) (name : ScalarText) : Text :=
  Codec.qr.encode (r.messageNamed true name).write

/-- The link of a record under a name, by its parts. -/
def linkOf (r : Record) (name : ScalarText) : Text :=
  LinkForm.internal.lead.points ++ (framing ++ .char '/' :: blobOf r name)

theorem isLink_linkOf (r : Record) (name : ScalarText) : IsLink (linkOf r name) (blobOf r name) :=
  ⟨LinkForm.internal.lead.points, framing, .refl _, .refl _, rfl⟩

/-- A record that may be shared has the link that the characters of its name give. -/
theorem encode?_of_isShareable {r : Record} (h : r.IsShareable) :
    encode? r = some (r.displayName.scalars.map (linkOf r)) := by
  rw [encode?, Record.parts?_of_isShareable h, Option.map_some, Record.toOctets, Record.toMessage]
  cases r.displayName.scalars with
  | error f => rfl
  | ok name =>
      show some (Except.ok
        (LinkForm.internal.lead.points ++ framing ++ .char '/' :: blobOf r name)) = _
      rw [List.append_assoc]
      rfl

/-- The blob of octets is read as the octets are. -/
theorem decodeBlob_octets (data : Bytes) :
    decodeBlob (Codec.qr.encode data) = Record.ofOctets none data := by
  rw [decodeBlob, Codec.decode_encode]
  rfl

theorem decodeBlob_encode {r : Record} {name : ScalarText} (h : r.displayName = name.map .char) :
    decodeBlob (blobOf r name) = pure r := by
  have hoctets : r.toOctets true = .ok _ := Record.toOctets_eq_ok_iff.2 ⟨name, h, rfl⟩
  rw [blobOf, decodeBlob_octets, Record.ofOctets_toOctets hoctets]

end InternalForm

/-! ## The web form -/

namespace WebForm

/-- The octets of a record without its kind and its name. -/
def octetsOf (r : Record) : Bytes := (r.messageNamed false []).write

/-- The blob of a record: all of it but the kind and the name. -/
def blobOf (r : Record) : Text := Codec.base58.encode (octetsOf r)

theorem toOctets_withDisplayName_nil (r : Record) :
    (r.withDisplayName []).toOctets false = .ok (octetsOf r) :=
  Record.toOctets_eq_ok_iff.2 ⟨[], by cases r <;> rfl, by cases r <;> rfl⟩

/-- The readable pairs for a name of characters. -/
def pairsOf (name : ScalarText) : List (ScalarText × ScalarText) :=
  if name = [] then [] else [("name".toList, name)]

theorem write_readablePairs (t : Text) :
    Query.write (readablePairs t) = t.scalars.map fun name => Query.encode (pairsOf name) := by
  unfold readablePairs
  split_ifs with ht
  · subst ht
    rfl
  · have hkey : Text.scalars nameKey = .ok "name".toList := scalars_map_char _
    rw [Query.write, List.mapM_cons, Query.scalarPair, hkey]
    cases hname : t.scalars with
    | error f => rfl
    | ok name =>
        have hne : name ≠ [] := by
          rintro rfl
          exact ht (scalars_eq_ok_iff.1 hname)
        simp only [Except.map, pairsOf, if_neg hne]
        rfl

/-- The query text of a name, if there is one to show. -/
def queryOf (name : ScalarText) : Option Text :=
  if name = [] then none else some (Query.encode (pairsOf name))

theorem getD_queryOf (name : ScalarText) :
    (queryOf name).getD [] = Query.encode (pairsOf name) := by
  unfold queryOf pairsOf
  split_ifs <;> rfl

/-- No blob of a web link holds a slash, so it ends where the next slash stands. -/
theorem slash_not_mem_encode (data : Bytes) : .char '/' ∉ Codec.base58.encode data := by
  intro h
  exact absurd (Codec.base58.encode_subset _ _ h) (by decide)

theorem slash_not_mem_blobOf (r : Record) : .char '/' ∉ blobOf r := slash_not_mem_encode _

theorem blobOf_ne_nil (r : Record) : blobOf r ≠ [] :=
  Codec.base58.encode_ne_nil (Record.toOctets_ne_nil (toOctets_withDisplayName_nil r))

/-- The link of a record under a name, by its parts. -/
def linkOf (r : Record) (name : ScalarText) : Text :=
  LinkForm.web.lead.points
    ++ (r.kind.tag.points ++ .char '/' :: (blobOf r ++ behind (.char '/') (queryOf name)))

theorem isLink_linkOf (r : Record) (name : ScalarText) :
    IsLink (linkOf r name) r.kind (blobOf r) (queryOf name) :=
  ⟨LinkForm.web.lead.points, .refl _, slash_not_mem_blobOf r, rfl⟩

/-- A record that may be shared has the link that the characters of its name give. -/
theorem encode?_of_isShareable {r : Record} (h : r.IsShareable) :
    encode? r = some (r.displayName.scalars.map (linkOf r)) := by
  rw [encode?, Record.parts?_of_isShareable h, Option.map_some]
  simp only [toOctets_withDisplayName_nil, write_readablePairs]
  cases hname : r.displayName.scalars with
  | error f => rfl
  | ok name =>
      -- there are readable pairs just when the name has characters
      have hquery : (if readablePairs r.displayName = [] then []
          else .char '/' :: Query.encode (pairsOf name)) = behind (.char '/') (queryOf name) := by
        rw [scalars_eq_ok_iff.1 hname, readablePairs, queryOf]
        cases name <;> rfl
      show some (Except.ok (_ ++ _ ++ .char '/' :: blobOf r ++ _)) = some (.ok (linkOf r name))
      rw [linkOf, ← hquery]
      simp only [List.append_assoc, List.cons_append]

theorem readMetadata_encode (pairs : List (ScalarText × ScalarText)) :
    readMetadata (Query.encode pairs)
      = .ok (Query.firstOfEachName (pairs.map Query.asTexts)) := by
  rw [readMetadata, if_pos (Query.wellEscaped_encode pairs), Query.decode_encode]

/-- The name of a record is found in its readable pairs, and no name where there is none. -/
theorem lookup_pairsOf (name : ScalarText) :
    ((Query.firstOfEachName ((pairsOf name).map Query.asTexts)).lookup nameKey).getD []
      = name.map .char := by
  unfold pairsOf
  split_ifs with h
  · rw [h]
    rfl
  · simp [Query.firstOfEachName, Query.asTexts, nameKey, String.points]

/-- The blob of octets is read as the octets are under the kind, before the query text is read. -/
theorem decodeBlob_octets (kind : Kind) (data : Bytes) (query : Text) :
    decodeBlob kind (Codec.base58.encode data) query
      = (do
        let record ← Record.ofOctets (some kind.number) data
        let pairs ← Traced.ofExcept (readMetadata query)
        pure (record.adoptName ((pairs.lookup nameKey).getD []))) := by
  rw [decodeBlob, Codec.decode_encode]
  rfl

/-- What the blob is read as adopts the name that the query text shows. -/
theorem decodeBlob_queryOf {kind : Kind} {data : Bytes} {record : Record}
    (h : Record.ofOctets (some kind.number) data = pure record) (name : ScalarText) :
    decodeBlob kind (Codec.base58.encode data) ((queryOf name).getD [])
      = pure (record.adoptName (name.map .char)) := by
  rw [decodeBlob_octets, h, getD_queryOf, readMetadata_encode]
  show pure (record.adoptName
    (((Query.firstOfEachName ((pairsOf name).map Query.asTexts)).lookup nameKey).getD [])) = _
  rw [lookup_pairsOf]

theorem decodeBlob_encode {r : Record} {name : ScalarText} (h : r.displayName = name.map .char) :
    decodeBlob r.kind (blobOf r) ((queryOf name).getD []) = pure r := by
  -- the blob gives the record without its name, and the query text the name
  have hrecord := Record.ofOctets_kind_toOctets (toOctets_withDisplayName_nil r)
  rw [Record.kind_withDisplayName] at hrecord
  rw [blobOf, decodeBlob_queryOf hrecord, ← h, Record.adoptName_withDisplayName]

end WebForm

/-! ## Sharing -/

namespace Record

variable {r : Record}

/-- What is done behind the check is all that is done with a record that may be shared. -/
theorem outcome_requireShareable_bind {α : Type} (h : r.IsShareable)
    (f : Unit → Traced SharingFault α) :
    (r.requireShareable.mapFault SharingFault.refused >>= f).outcome = (f ()).outcome := by
  rw [Traced.outcome_bind, Traced.outcome_mapFault, requireShareable_ok_iff.2 h]
  rfl

theorem toInternalLink_of_isShareable (h : r.IsShareable) :
    r.toInternalLink.outcome
      = (r.displayName.scalars.map (InternalForm.linkOf r)).mapError .unwritable := by
  rw [toInternalLink, outcome_requireShareable_bind h, InternalForm.encode?_of_isShareable h]
  rfl

theorem toWebLink_of_isShareable (h : r.IsShareable) :
    r.toWebLink.outcome
      = (r.displayName.scalars.map (WebForm.linkOf r)).mapError .unwritable := by
  rw [toWebLink, outcome_requireShareable_bind h, WebForm.encode?_of_isShareable h]
  rfl

/-- The two links of a record under a name. -/
def linksOf (r : Record) (name : ScalarText) : Links where
  internal := InternalForm.linkOf r name
  web := WebForm.linkOf r name

theorem toLinks_of_isShareable (h : r.IsShareable) :
    r.toLinks.outcome = (r.displayName.scalars.map r.linksOf).mapError .unwritable := by
  rw [toLinks, outcome_requireShareable_bind h, InternalForm.encode?_of_isShareable h,
    WebForm.encode?_of_isShareable h]
  cases r.displayName.scalars with
  | error f => rfl
  | ok name => rfl

end Record

/-! ## Round trips -/

/-- A record that may be shared and whose name can be written has an internal link, and the link is
    read as the record. -/
theorem ofLink_toInternalLink {r : Record} (h : r.requireShareable.outcome = .ok ())
    (hname : r.displayName.isScalar = true) :
    ∃ link, r.toInternalLink.outcome = .ok link ∧ (Record.ofLink link).outcome = .ok r := by
  obtain ⟨name, hname⟩ := exists_eq_map_char_iff.2 hname
  refine ⟨InternalForm.linkOf r name, ?_, ?_⟩
  · rw [Record.toInternalLink_of_isShareable (Record.requireShareable_ok_iff.1 h), hname,
      scalars_map_char]
    rfl
  · rw [InternalForm.outcome_ofLink_of_isLink (InternalForm.isLink_linkOf r name),
      InternalForm.decodeBlob_encode hname]
    rfl

theorem ofLink_toInternalLink_group :
    (Record.group ⟨some ⟨[0, 0, 7], [], [255], .multiMember, [1]⟩,
        "a/b".points⟩).requireShareable.outcome = .ok ()
      ∧ ∃ link, (Record.group ⟨some ⟨[0, 0, 7], [], [255], .multiMember, [1]⟩,
          "a/b".points⟩).toInternalLink.outcome = .ok link
        ∧ (Record.ofLink link).outcome = .ok (Record.group
          ⟨some ⟨[0, 0, 7], [], [255], .multiMember, [1]⟩, "a/b".points⟩) :=
  ⟨rfl, ofLink_toInternalLink rfl rfl⟩

/-- A record that may be shared and whose name can be written has a web link, and the link is read
    as the record. -/
theorem ofLink_toWebLink {r : Record} (h : r.requireShareable.outcome = .ok ())
    (hname : r.displayName.isScalar = true) :
    ∃ link, r.toWebLink.outcome = .ok link ∧ (Record.ofLink link).outcome = .ok r := by
  obtain ⟨name, hname⟩ := exists_eq_map_char_iff.2 hname
  refine ⟨WebForm.linkOf r name, ?_, ?_⟩
  · rw [Record.toWebLink_of_isShareable (Record.requireShareable_ok_iff.1 h), hname,
      scalars_map_char]
    rfl
  · rw [WebForm.outcome_ofLink_of_isLink (WebForm.isLink_linkOf r name) (WebForm.blobOf_ne_nil r),
      WebForm.decodeBlob_encode hname]
    rfl

theorem ofLink_toWebLink_contact :
    (Record.contact ⟨[0, 7], [255], "a/b#c&d=e+f%é".points⟩).requireShareable.outcome = .ok ()
      ∧ ∃ link, (Record.contact ⟨[0, 7], [255],
          "a/b#c&d=e+f%é".points⟩).toWebLink.outcome = .ok link
        ∧ (Record.ofLink link).outcome = .ok (Record.contact ⟨[0, 7], [255],
          "a/b#c&d=e+f%é".points⟩) :=
  ⟨rfl, ofLink_toWebLink rfl rfl⟩

end InviteLink
