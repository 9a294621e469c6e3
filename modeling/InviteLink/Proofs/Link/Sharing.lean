import InviteLink.Proofs.Link.RoundTrip
import InviteLink.Proofs.Text.Blank

set_option autoImplicit false

/-! # The links of a record

A record that may be shared, and whose name has characters, is given two links, one of each form
(`toLinks_ok_iff`). Either is read as the record (`ofLink_of_hasLink`), and consists of visible
ASCII characters (`isVisible_of_hasLink`), so blanks around a pasted link are never part of it. The
internal link is of one alphabet throughout (`InternalForm.mem_alphabet_linkOf`), the part of the
alphanumeric mode of QR codes that stays as it is in an address (`Codec.mem_qr_iff`). -/

namespace InviteLink

namespace Record

/-- A link, of either form, that a record may be shared by. -/
def HasLink (r : Record) (link : Text) : Prop :=
  r.IsShareable ∧ ∃ name : ScalarText, r.displayName = name.map .char
    ∧ (InternalForm.linkOf r name = link ∨ WebForm.linkOf r name = link)

/-- The check is in front, so what does not pass it gives no value. -/
theorem isShareable_of_bind {α : Type} {r : Record} {f : Unit → Traced SharingFault α} {a : α}
    (h : (r.requireShareable.mapFault SharingFault.refused >>= f).outcome = .ok a) :
    r.IsShareable := by
  rw [Traced.outcome_bind, bind_eq_ok_iff] at h
  obtain ⟨_, hcheck, -⟩ := h
  exact requireShareable_ok_iff.1 (mapError_eq_ok_iff.1 hcheck)

/-- The values of an operation behind the check that makes something of the characters of the
    name. -/
theorem ok_iff_of_scalars {α : Type} {r : Record} {x : Traced SharingFault α}
    {make : ScalarText → α} (hcheck : ∀ {a}, x.outcome = .ok a → r.IsShareable)
    (hx : r.IsShareable → x.outcome = (r.displayName.scalars.map make).mapError .unwritable)
    {a : α} :
    x.outcome = .ok a
      ↔ r.IsShareable ∧ ∃ name : ScalarText, r.displayName = name.map .char ∧ make name = a := by
  constructor
  · intro h
    have hshareable := hcheck h
    rw [hx hshareable, mapError_eq_ok_iff, map_eq_ok_iff] at h
    simpa only [scalars_eq_ok_iff] using And.intro hshareable h
  · rintro ⟨hshareable, name, hname, rfl⟩
    rw [hx hshareable, scalars_eq_ok_iff.2 hname]
    rfl

theorem toInternalLink_ok_iff {r : Record} {link : Text} :
    r.toInternalLink.outcome = .ok link
      ↔ r.IsShareable
        ∧ ∃ name : ScalarText, r.displayName = name.map .char ∧ InternalForm.linkOf r name = link :=
  ok_iff_of_scalars isShareable_of_bind toInternalLink_of_isShareable

theorem toWebLink_ok_iff {r : Record} {link : Text} :
    r.toWebLink.outcome = .ok link
      ↔ r.IsShareable
        ∧ ∃ name : ScalarText, r.displayName = name.map .char ∧ WebForm.linkOf r name = link :=
  ok_iff_of_scalars isShareable_of_bind toWebLink_of_isShareable

theorem toLinks_ok_iff {r : Record} {links : Links} :
    r.toLinks.outcome = .ok links
      ↔ r.IsShareable
        ∧ ∃ name : ScalarText, r.displayName = name.map .char ∧ r.linksOf name = links :=
  ok_iff_of_scalars isShareable_of_bind toLinks_of_isShareable

/-- A record is given links that it has. -/
theorem hasLink_of_toLinks {r : Record} {links : Links} (h : r.toLinks.outcome = .ok links) :
    r.HasLink links.internal ∧ r.HasLink links.web := by
  obtain ⟨hshareable, name, hname, rfl⟩ := toLinks_ok_iff.1 h
  exact ⟨⟨hshareable, name, hname, .inl rfl⟩, ⟨hshareable, name, hname, .inr rfl⟩⟩

/-- A link of a record is read as the record. -/
theorem ofLink_of_hasLink {r : Record} {link : Text} (h : r.HasLink link) :
    (Record.ofLink link).outcome = .ok r := by
  obtain ⟨-, name, hname, rfl | rfl⟩ := h
  · rw [InternalForm.outcome_ofLink_of_isLink (InternalForm.isLink_linkOf r name),
      InternalForm.decodeBlob_encode hname]
    rfl
  · rw [WebForm.outcome_ofLink_of_isLink (WebForm.isLink_linkOf r name) (WebForm.blobOf_ne_nil r),
      WebForm.decodeBlob_encode hname]
    rfl

/-- A record with a link has a name that can be written. -/
theorem isScalar_displayName_of_hasLink {r : Record} {link : Text} (h : r.HasLink link) :
    r.displayName.isScalar = true := by
  obtain ⟨-, name, hname, -⟩ := h
  exact exists_eq_map_char_iff.1 ⟨name, hname⟩

theorem length_of_toInternalLink {r : Record} {link : Text}
    (h : r.toInternalLink.outcome = .ok link) :
    ∃ data, r.toOctets true = .ok data ∧ link.length = 11 + (Codec.qr.encode data).length := by
  obtain ⟨-, name, hname, rfl⟩ := toInternalLink_ok_iff.1 h
  exact ⟨_, toOctets_eq_ok_iff.2 ⟨name, hname, rfl⟩, (InternalForm.isLink_linkOf r name).length_eq⟩

end Record

/-! ## Characters of links -/

theorem Query.isVisible_of_isEscapedChar {c : CodePoint} (h : isEscapedChar c = true) :
    isVisible c = true := by
  have hall : ∀ n < 128, isUnreserved (UInt8.ofNat n) = true → 0x21 ≤ n ∧ n ≤ 0x7E := by
    decide +kernel
  simp only [isEscapedChar, Bool.or_eq_true, beq_iff_eq, Bool.and_eq_true, decide_eq_true_eq] at h
  rcases h with (rfl | rfl) | ⟨hascii, hc⟩
  · decide
  · decide
  · simpa [isVisible] using hall c.toNat hascii hc

theorem Query.isVisible_of_mem_encodePair {p : ScalarText × ScalarText} {c : CodePoint}
    (h : c ∈ encodePair p) : isVisible c = true := by
  rw [encodePair, List.mem_append, List.mem_cons] at h
  rcases h with hname | rfl | hvalue
  · exact isVisible_of_isEscapedChar (mem_escape hname)
  · decide
  · exact isVisible_of_isEscapedChar (mem_escape hvalue)

theorem Query.isVisible_of_mem_encode (pairs : List (ScalarText × ScalarText)) :
    ∀ c ∈ encode pairs, isVisible c = true := by
  induction pairs using encode.induct with
  | case1 => simp [encode]
  | case2 p => exact fun c hc => isVisible_of_mem_encodePair hc
  | case3 p rest hrest ih =>
      rw [encode.eq_3 _ _ hrest]
      intro c hc
      rw [List.mem_append, List.mem_cons] at hc
      rcases hc with hpair | rfl | hmore
      · exact isVisible_of_mem_encodePair hpair
      · decide
      · exact ih c hmore

/-- The lead and the framing of an internal link are of the same alphabet as its blob. -/
theorem InternalForm.mem_alphabet_linkOf (r : Record) (name : ScalarText) :
    ∀ c ∈ linkOf r name, c ∈ Codec.qr.alphabet := by
  have hfront : (LinkForm.internal.lead.points ++ framing ++ [CodePoint.char '/']).all
      Codec.qr.alphabet.contains = true := by decide
  intro c hc
  rw [linkOf, ← List.append_assoc, List.append_cons, List.mem_append] at hc
  rcases hc with hc | hc
  · exact List.contains_iff_mem.1 (List.all_eq_true.1 hfront c hc)
  · exact Codec.qr.encode_subset _ c hc

theorem InternalForm.isVisible_linkOf (r : Record) (name : ScalarText) :
    ∀ c ∈ linkOf r name, isVisible c = true := by
  have halphabet : Codec.qr.alphabet.all isVisible = true := by decide
  intro c hc
  exact List.all_eq_true.1 halphabet c (mem_alphabet_linkOf r name c hc)

theorem WebForm.isVisible_linkOf (r : Record) (name : ScalarText) :
    ∀ c ∈ linkOf r name, isVisible c = true := by
  have hfront : (LinkForm.web.lead.points ++ r.kind.tag.points ++ [CodePoint.char '/']).all
      isVisible = true := by
    cases r.kind <;> decide
  have halphabet : Codec.base58.alphabet.all isVisible = true := by decide
  intro c hc
  rw [linkOf, ← List.append_assoc, List.append_cons] at hc
  rcases List.mem_append.1 hc with hc | hc
  · exact List.all_eq_true.1 hfront c hc
  rcases List.mem_append.1 hc with hc | hc
  · exact List.all_eq_true.1 halphabet c (Codec.base58.encode_subset _ c hc)
  · unfold queryOf at hc
    split_ifs at hc with hempty
    · cases hc
    · rcases List.mem_cons.1 hc with rfl | hc
      · decide
      · exact Query.isVisible_of_mem_encode _ c hc

/-- A link of a record holds visible characters only. -/
theorem Record.isVisible_of_hasLink {r : Record} {link : Text} (h : r.HasLink link) :
    ∀ c ∈ link, isVisible c = true := by
  obtain ⟨-, name, -, rfl | rfl⟩ := h
  · exact InternalForm.isVisible_linkOf r name
  · exact WebForm.isVisible_linkOf r name

/-! ## Internal links as QR codes -/

/-- The characters of the alphanumeric mode of QR codes. -/
def alphanumericMode : Text := "0123456789ABCDEFGHIJKLMNOPQRSTUVWXYZ $%*+-./:".points

/-- The QR alphabet is the alphanumeric mode without the characters that an address changes. -/
theorem Codec.mem_qr_iff {c : CodePoint} :
    c ∈ qr.alphabet ↔ c ∈ alphanumericMode ∧ c ∉ " %+".points := by
  have hkept : qr.alphabet.all (fun c => alphanumericMode.contains c
      && !" %+".points.contains c) = true := by decide +kernel
  have hleft : alphanumericMode.all (fun c => " %+".points.contains c
      || qr.alphabet.contains c) = true := by decide +kernel
  constructor
  · intro hc
    simpa using List.all_eq_true.1 hkept c hc
  · rintro ⟨hc, hremoved⟩
    have hcases := List.all_eq_true.1 hleft c hc
    rw [Bool.or_eq_true, List.contains_iff_mem, List.contains_iff_mem] at hcases
    exact hcases.resolve_left hremoved

/-- Whether a code point is a small letter of ASCII. -/
def isSmallLetter : CodePoint → Bool
  | .char c => c.isLower
  | .surrogate _ => false

theorem Codec.isSmallLetter_of_mem_qr {c : CodePoint} (hc : c ∈ qr.alphabet) :
    isSmallLetter c = false := by
  have hall : qr.alphabet.all (fun c => !isSmallLetter c) = true := by decide
  simpa using List.all_eq_true.1 hall c hc

/-- Whatever octets and name a record has, a QR code holds its internal link in alphanumeric mode:
    all of the link, its lead and framing included, is over the 42 characters of that mode that
    are no space, percent or plus. There is such a link unless the name cannot be written. -/
theorem internalLink_alphanumeric {r : Record} (h : r.requireShareable.outcome = .ok ()) :
    ((∃ link, r.toInternalLink.outcome = .ok link) ↔ r.displayName.isScalar = true)
      ∧ (∀ link, r.toInternalLink.outcome = .ok link →
        (∀ c ∈ link, c ∈ Codec.qr.alphabet)
          ∧ ∀ c ∈ link, c ≠ '%' ∧ c ≠ '+' ∧ c ≠ ' ' ∧ isSmallLetter c = false)
      ∧ Codec.qr.alphabet.length = 42
      ∧ ∀ c, c ∈ Codec.qr.alphabet ↔ c ∈ alphanumericMode ∧ c ∉ " %+".points := by
  have hshareable := Record.requireShareable_ok_iff.1 h
  refine ⟨?_, ?_, by decide, fun _ => Codec.mem_qr_iff⟩
  · rw [Record.toInternalLink_of_isShareable hshareable, ← exists_scalars_eq_ok_iff]
    simp only [mapError_eq_ok_iff, exists_map_eq_ok_iff]
  · intro link hlink
    obtain ⟨-, name, -, rfl⟩ := Record.toInternalLink_ok_iff.1 hlink
    have hmem := InternalForm.mem_alphabet_linkOf r name
    refine ⟨hmem, fun c hc => ?_⟩
    have hremoved := (Codec.mem_qr_iff.1 (hmem c hc)).2
    refine ⟨?_, ?_, ?_, Codec.isSmallLetter_of_mem_qr (hmem c hc)⟩
    all_goals
      rintro rfl
      exact hremoved (by decide)

/-- A contact whose name holds what the alphabet leaves out. -/
theorem internalLink_alphanumeric_contact :
    (Record.contact ⟨[0, 255], [0x25], "50% a+ß".points⟩).requireShareable.outcome = .ok ()
      ∧ ∃ link, (Record.contact ⟨[0, 255], [0x25], "50% a+ß".points⟩).toInternalLink.outcome
          = .ok link
        ∧ ∀ c ∈ link, c ≠ '%' ∧ c ≠ '+' ∧ c ≠ ' ' ∧ isSmallLetter c = false := by
  have hshareable : (Record.contact ⟨[0, 255], [0x25],
      "50% a+ß".points⟩).requireShareable.outcome = .ok () := rfl
  obtain ⟨hexists, hcharacters, -⟩ := internalLink_alphanumeric hshareable
  obtain ⟨link, hlink⟩ := hexists.2 rfl
  exact ⟨hshareable, link, hlink, (hcharacters link hlink).2⟩

end InviteLink
