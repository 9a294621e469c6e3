import InviteLink.Proofs.Codec.Base64
import InviteLink.Proofs.Codec.Length
import InviteLink.Proofs.Link.Sharing
import InviteLink.Proofs.Link.Surrogates
import InviteLink.Proofs.Service.Endpoint
import Mathlib.Control.Monad.Basic

set_option autoImplicit false

/-! # What is told of a link

Whoever gives the service a link is told what reading it gives, and nothing is lost on the way: a
link that is not too long is answered with its record or with the refusal (`Reply.Tells`). A record
shows all its octets in base 64, its type by its number and its kind by a tag, and what it lacks as
null, so one body tells one record (`Record.toJson_injective`). The answer is a failure where it
would repeat surrogates of the link (`Settings.CannotTell`), so links of characters are always told
of. A link is not too long when it is of few octets: of how many follows from how much longer than
them a blob can be (`Record.length_toInternalLink_le`). -/

namespace InviteLink

/-! ## Records in bodies -/

theorem Json.ofBytes64_injective {bs bs' : Bytes} (h : Json.ofBytes64 bs = Json.ofBytes64 bs') :
    bs = bs' := by
  rw [ofBytes64, ofBytes64, Json.text.injEq] at h
  exact Base64.encode_injective h

theorem GroupType.number_injective {t t' : GroupType} (h : t.number = t'.number) : t = t' := by
  revert h
  cases t <;> cases t' <;> decide

theorem Contact.toJson_injective {c c' : Contact} (h : c.toJson = c'.toJson) : c = c' := by
  obtain ⟨key, seed, name⟩ := c
  obtain ⟨key', seed', name'⟩ := c'
  simp only [toJson, Json.object.injEq, List.cons.injEq, Prod.mk.injEq, Json.text.injEq, true_and,
    and_true] at h
  obtain ⟨hkey, hseed, hname⟩ := h
  rw [Json.ofBytes64_injective hkey, Json.ofBytes64_injective hseed, hname]

theorem Descriptor.toJson_injective {d d' : Descriptor} (h : d.toJson = d'.toJson) : d = d' := by
  obtain ⟨key, secret, signature, type, signing⟩ := d
  obtain ⟨key', secret', signature', type', signing'⟩ := d'
  simp only [toJson, Json.object.injEq, List.cons.injEq, Prod.mk.injEq, Json.integer.injEq,
    Int.ofNat_inj, true_and, and_true] at h
  obtain ⟨hkey, hsecret, hsignature, htype, hsigning⟩ := h
  rw [Json.ofBytes64_injective hkey, Json.ofBytes64_injective hsecret,
    Json.ofBytes64_injective hsignature, GroupType.number_injective htype,
    Json.ofBytes64_injective hsigning]

/-- A contact is told of contacts only, so there are no records of different kinds in one body. -/
theorem Record.contactJson_contact_ne_group (c : Contact) (g : GroupInvite) :
    (Record.contact c).contactJson ≠ (Record.group g).contactJson := nofun

/-- A descriptor is told just when there is one. -/
theorem Record.descriptorJson_injective {g g' : GroupInvite}
    (h : (Record.group g).descriptorJson = (Record.group g').descriptorJson) :
    g.descriptor = g'.descriptor := by
  obtain ⟨descriptor, name⟩ := g
  obtain ⟨descriptor', name'⟩ := g'
  cases descriptor with
  | none =>
      cases descriptor' with
      | none => rfl
      | some d' => cases h
  | some d =>
      cases descriptor' with
      | none => cases h
      | some d' => exact congrArg some (Descriptor.toJson_injective h)

/-- Different records are told in different bodies. -/
theorem Record.toJson_injective {r r' : Record} (h : r.toJson = r'.toJson) : r = r' := by
  simp only [toJson, Json.object.injEq, List.cons.injEq, Prod.mk.injEq, Json.text.injEq, true_and,
    and_true] at h
  obtain ⟨-, hname, hcontact, hdescriptor⟩ := h
  cases r with
  | contact c =>
      cases r' with
      | contact c' => rw [Contact.toJson_injective hcontact]
      | group g' => exact absurd hcontact (contactJson_contact_ne_group c g')
  | group g =>
      cases r' with
      | contact c' => exact absurd hcontact.symm (contactJson_contact_ne_group c' g)
      | group g' =>
          obtain ⟨descriptor, name⟩ := g
          obtain ⟨descriptor', name'⟩ := g'
          cases descriptorJson_injective hdescriptor
          cases hname
          rfl

/-! ## Answers to links -/

/-- A reply that tells what reading a link gave: a record as it is, a refusal by its message and
    its code. -/
def Reply.Tells (reply : Reply) : Except Refusal Record → Prop
  | .ok r => reply.status = 200 ∧ reply.body = r.toJson
  | .error cause => reply.status = 400 ∧ reply.body = .object [
      ("detail".points, .ofString cause.message), ("code".points, .ofString cause.code)]

theorem Reply.Tells.status_mem {reply : Reply} {outcome : Except Refusal Record}
    (h : reply.Tells outcome) : reply.status ∈ [200, 201, 400] := by
  cases outcome with
  | ok r =>
      rw [h.1]
      decide
  | error cause =>
      rw [h.1]
      decide

/-- A link that no answer can be written to: it is too long, and the report of that repeats
    surrogates, or it is read as a record whose name holds some. -/
def Settings.CannotTell (s : Settings) (t : Text) : Prop :=
  (s.maxLinkLength < t.length ∧ t.isScalar = false)
    ∨ (t.length : Int) ≤ s.maxLinkLength
      ∧ ∃ r, (Record.ofLink (strip t)).outcome = .ok r ∧ r.displayName.isScalar = false

section Told

variable {s : Settings} {t : Text}

/-- The surrogates of a name that is read off a link stand in the link. -/
theorem Settings.CannotTell.isScalar_eq_false (h : s.CannotTell t) : t.isScalar = false := by
  obtain ⟨-, ht⟩ | ⟨-, r, hr, hname⟩ := h
  · exact ht
  · rw [← Bool.not_eq_true] at hname ⊢
    intro ht
    have hstrip : (strip t).isScalar = true :=
      isScalar_iff.2 fun c hc => isScalar_iff.1 ht c (mem_of_mem_strip hc)
    exact hname (Record.isScalar_displayName_of_ofLink hr hstrip)

theorem Reply.toLink_of_cannotTell (h : s.CannotTell t) : Reply.toLink s t = .failed := by
  obtain ⟨hlong, ht⟩ | ⟨hshort, r, hr, hname⟩ := h
  · rw [toLink, if_pos hlong]
    exact written_of_flawed (by simp [flawed_malformed_iff, ht])
  · rw [toLink, if_neg (by omega), hr]
    exact written_of_flawed (flawed_parsed_iff.2 hname)

theorem Reply.toLink_of_long (h : s.maxLinkLength < t.length) (htold : ¬s.CannotTell t) :
    (Reply.toLink s t).status = 422 := by
  have ht : t.isScalar ≠ false := fun ht => htold (Or.inl ⟨h, ht⟩)
  rw [toLink, if_pos h, written_of_not_flawed (by simp [flawed_malformed_iff, ht]), status]

theorem Reply.tells_toLink (h : (t.length : Int) ≤ s.maxLinkLength) (htold : ¬s.CannotTell t) :
    (Reply.toLink s t).Tells (Record.ofLink (strip t)).outcome := by
  rw [toLink, if_neg (by omega)]
  cases hread : (Record.ofLink (strip t)).outcome with
  | error cause => exact ⟨rfl, rfl⟩
  | ok r =>
      have hname : ¬(Reply.parsed r).Flawed := fun hname =>
        htold (Or.inr ⟨h, r, hread, flawed_parsed_iff.1 hname⟩)
      dsimp only
      rw [written_of_not_flawed hname]
      exact ⟨rfl, rfl⟩

/-- The service fails on the links that it cannot tell of, and on no other. -/
theorem Reply.status_toLink_eq_iff : (Reply.toLink s t).status = 500 ↔ s.CannotTell t := by
  constructor
  · intro hfailed
    by_contra htold
    rcases Int.lt_or_le s.maxLinkLength t.length with hlong | hshort
    · rw [toLink_of_long hlong htold] at hfailed
      cases hfailed
    · have hstatus := (tells_toLink hshort htold).status_mem
      rw [hfailed] at hstatus
      simp at hstatus
  · intro h
    rw [toLink_of_cannotTell h, status]

end Told

/-- Whatever link is given to be read, under whatever limit: a text that is too long, blanks
    included, is answered with status 422, and every other with what reading it without the blanks
    around it gives. The one exception is a link that is too long and holds surrogates, or whose
    record has a name that holds some: there, and only there, the service fails with status 500, so
    never on a text of characters. No two records are told in one body. -/
theorem reading_told {s : Settings} {q : Request} {t : Text} (hasks : q.Asks s .parseLink)
    (hgiven : q.text? "link" = some t) :
    (¬s.CannotTell t →
      (s.maxLinkLength < t.length → (q.answer s).2.status = 422)
        ∧ ((t.length : Int) ≤ s.maxLinkLength →
          (q.answer s).2.Tells (Record.ofLink (strip t)).outcome))
      ∧ ((q.answer s).2.status = 500 ↔ s.CannotTell t)
      ∧ (s.CannotTell t → t.isScalar = false)
      ∧ ∀ r r' : Record, r.toJson = r'.toJson → r = r' := by
  rw [Request.answer_link hasks hgiven]
  refine ⟨?_, Reply.status_toLink_eq_iff, Settings.CannotTell.isScalar_eq_false,
    fun _ _ => Record.toJson_injective⟩
  intro htold
  exact ⟨fun hlong => Reply.toLink_of_long hlong htold,
    fun hshort => Reply.tells_toLink hshort htold⟩

/-- A request to read the link of a group without descriptor, between blanks. -/
def bareRequest : Request where
  method := "POST".points
  target := "/api/v1/links/parse".points
  body := Utf8.encode
    "\x7b\"link\":\" \\u2003https://berty.tech/id#group/2ym\\n\"\x7d".toList

/-- The text of 34 characters is read under a limit of 34, and too long for one of 33. -/
theorem reading_told_bare :
    (bareRequest.answer { maxLinkLength := 33 }).2.status = 422
      ∧ (bareRequest.answer { maxLinkLength := 34 }).2.status = 200
      ∧ (bareRequest.answer { maxLinkLength := 34 }).2.body = (Record.group {}).toJson := by
  have hgiven : bareRequest.text? "link"
      = some " \u2003https://berty.tech/id#group/2ym\n".points := by decide +kernel
  have hread : (Record.ofLink (strip " \u2003https://berty.tech/id#group/2ym\n".points)).outcome
      = .ok (.group {}) := by decide +kernel
  have htold : ∀ s : Settings,
      ¬s.CannotTell " \u2003https://berty.tech/id#group/2ym\n".points :=
    fun s h => absurd h.isScalar_eq_false (by simp)
  obtain ⟨hlong, -⟩ := @reading_told { maxLinkLength := 33 } bareRequest _ (by decide +kernel)
    hgiven
  obtain ⟨hshort, -⟩ := @reading_told { maxLinkLength := 34 } bareRequest _ (by decide +kernel)
    hgiven
  obtain ⟨htoo, -⟩ := hlong (htold _)
  obtain ⟨-, htells⟩ := hshort (htold _)
  rw [hread] at htells
  exact ⟨htoo (by decide +kernel), htells (by decide +kernel)⟩

/-- A request to read a link of four surrogates. -/
def surrogateLinkRequest : Request where
  method := "POST".points
  target := "/api/v1/links/parse".points
  body := Utf8.encode "\x7b\"link\":\"\\ud800\\ud800\\ud800\\ud800\"\x7d".toList

/-- A request to read the web link of a group without descriptor, whose name is a surrogate. -/
def surrogateNameRequest : Request where
  method := "POST".points
  target := "/api/v1/links/parse".points
  body := Utf8.encode ("\x7b\"link\":\"https://berty.tech/id#group/2ym/"
    ++ "name=\\ud800\"\x7d").toList

/-- Under a limit of three the first link is too long, but that is not told; the other is read, but
    its record is not told. -/
theorem surrogates_not_told :
    surrogateLinkRequest.Asks { maxLinkLength := 3 } .parseLink
      ∧ surrogateLinkRequest.text? "link" = some (List.replicate 4 (.surrogate 0))
      ∧ (surrogateLinkRequest.answer { maxLinkLength := 3 }).2.status = 500
      ∧ surrogateNameRequest.Asks {} .parseLink
      ∧ (Record.ofLink ("https://berty.tech/id#group/2ym/name=".points
          ++ [.surrogate 0])).outcome = .ok (.group ⟨none, [.surrogate 0]⟩)
      ∧ (surrogateNameRequest.answer {}).2.status = 500 :=
  ⟨by decide +kernel, by decide +kernel, by decide +kernel, by decide +kernel, by decide +kernel,
    by decide +kernel⟩

/-! ## Links that are never too long -/

/-- A link of a record is all visible, so nothing is stripped off it. -/
theorem Record.strip_of_hasLink {r : Record} {link : Text} (h : r.HasLink link) :
    strip link = link := by
  have hstrip : strip ([] ++ link ++ []) = link := strip_padded nofun (isVisible_of_hasLink h) nofun
  rwa [List.nil_append, List.append_nil] at hstrip

/-- An internal link of at most 2723 octets keeps within 4096 characters. -/
theorem Record.length_toInternalLink_le {r : Record} {link : Text} {data : Bytes}
    (h : r.toInternalLink.outcome = .ok link) (hdata : r.toOctets true = .ok data)
    (hsize : data.length ≤ 2723) : link.length ≤ 4096 := by
  obtain ⟨data', hdata', hlink⟩ := Record.length_of_toInternalLink h
  obtain rfl : data = data' := Except.ok.inj (hdata.symm.trans hdata')
  have hblob : (3 * data.length) ⌈/⌉ 2 ≤ 4085 := by
    rw [ceilDiv_le_iff_le_mul (by decide)]
    omega
  have hlength := Codec.length_qr_encode_le data
  rw [hlink]
  omega

/-- However many zeros they begin with, `n` octets take at most `3 * n / 2` characters of the QR
    alphabet and `7 * n / 5` of base 58, both rounded up. So a record that may be shared and is
    written in at most 2723 octets has an internal link of at most 4096 characters, and a service
    that was told no other limit reads it. -/
theorem internalLink_not_too_long :
    (∀ data : Bytes, (Codec.qr.encode data).length ≤ (3 * data.length) ⌈/⌉ 2
        ∧ (Codec.base58.encode data).length ≤ (7 * data.length) ⌈/⌉ 5)
      ∧ ∀ (r : Record) (data : Bytes), r.requireShareable.outcome = .ok () →
        r.toOctets true = .ok data → data.length ≤ 2723 →
        ∃ link, r.toInternalLink.outcome = .ok link ∧ link.length ≤ 4096
          ∧ ∀ (s : Settings) (q : Request), s.maxLinkLength = ({} : Settings).maxLinkLength →
            q.Asks s .parseLink → q.text? "link" = some link → (q.answer s).2 = .parsed r := by
  refine ⟨fun data => ⟨Codec.length_qr_encode_le data, Codec.length_base58_encode_le data⟩, ?_⟩
  intro r data hr hdata hsize
  have hshareable := Record.requireShareable_ok_iff.1 hr
  obtain ⟨name, hname, -⟩ := Record.toOctets_eq_ok_iff.1 hdata
  have hlink := Record.toInternalLink_ok_iff.2 ⟨hshareable, name, hname, rfl⟩
  have hhas : r.HasLink (InternalForm.linkOf r name) := ⟨hshareable, name, hname, .inl rfl⟩
  have hlength := Record.length_toInternalLink_le hlink hdata hsize
  refine ⟨InternalForm.linkOf r name, hlink, hlength, ?_⟩
  intro s q hlimit hasks hgiven
  refine Request.answer_parsed hasks hgiven ?_ ?_ (Record.isScalar_displayName_of_hasLink hhas)
  · rw [hlimit]
    show ((InternalForm.linkOf r name).length : Int) ≤ 4096
    omega
  · rw [Record.strip_of_hasLink hhas, Record.ofLink_of_hasLink hhas]

/-- A request to read the internal link of a contact with keys of one octet. -/
def contactLinkRequest : Request where
  method := "POST".points
  target := "/api/v1/links/parse".points
  body := Utf8.encode "\x7b\"link\":\"BERTY://PB/3$W51D-716DQ6:\"\x7d".toList

/-- A contact whose octets are just not too many, and one whose link is read. -/
theorem internalLink_not_too_long_contact :
    (∃ data link, (Record.contact ⟨List.replicate 2712 0, [7], []⟩).toOctets true = .ok data
        ∧ data.length = 2723
        ∧ (Record.contact ⟨List.replicate 2712 0, [7], []⟩).toInternalLink.outcome = .ok link
        ∧ link.length ≤ 4096)
      ∧ (contactLinkRequest.answer {}).2 = .parsed (.contact ⟨[0], [7], []⟩) := by
  have hsize : ((Record.contact ⟨List.replicate 2712 0, [7], []⟩).messageNamed true
      []).write.length = 2723 := by decide +kernel
  have hdata : (Record.contact ⟨List.replicate 2712 0, [7], []⟩).toOctets true = .ok _ :=
    Record.toOctets_eq_ok_iff.2 ⟨[], rfl, rfl⟩
  obtain ⟨long, hlong, hlength, -⟩ := internalLink_not_too_long.2
    (.contact ⟨List.replicate 2712 0, [7], []⟩) _ rfl hdata hsize.le
  have hfew : (Record.contact ⟨[0], [7], []⟩).toOctets true
      = .ok [0x08, 1, 0x12, 6, 0x0A, 1, 7, 0x12, 1, 0] := by decide +kernel
  obtain ⟨link, hlink, -, hread⟩ := internalLink_not_too_long.2 (.contact ⟨[0], [7], []⟩) _ rfl
    hfew (by decide)
  have hgiven : contactLinkRequest.text? "link" = some "BERTY://PB/3$W51D-716DQ6:".points := by
    decide +kernel
  have hlink' : (Record.contact ⟨[0], [7], []⟩).toInternalLink.outcome
      = .ok "BERTY://PB/3$W51D-716DQ6:".points := by decide +kernel
  rw [hlink', Except.ok.injEq] at hlink
  exact ⟨⟨_, long, hdata, hsize, hlong, hlength⟩,
    hread {} contactLinkRequest rfl (by decide +kernel) (by rw [hgiven, hlink])⟩

end InviteLink
