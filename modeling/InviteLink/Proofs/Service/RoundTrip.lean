import InviteLink.Proofs.Codec.Base64
import InviteLink.Proofs.Link.Sharing
import InviteLink.Proofs.Service.Endpoint

set_option autoImplicit false

/-! # Links of the service are read by the service

A body that asks for links gives the octets of a record in base 64 and its name as a text. The
record is told again by the same names, with its octets in the base-64 text of their own
(`Record.toJson_of_ofMembers`), whichever of the two links it came back by and whatever blanks
stand around the link. -/

namespace InviteLink

/-! ## What is told of a record that was asked for -/

/-- A text told for the octets that a body gives in a field: the base-64 text of the octets, hence
    the very text that the body gives if that is the one of some octets. -/
def Members.RewritesAs (members : Members) (field : String) (told : Text) : Prop :=
  ∃ t bs, members.get? field = some (.text t) ∧ Base64.decode t = .ok bs
    ∧ told = Base64.encode bs ∧ ((∃ bs', t = Base64.encode bs') → told = t)

/-- What is told of a record of a kind, given its name and the text of every field of octets. -/
def echo (kind : Kind) (name : Text) (octets : String → Text) : Json := .object [
  ("kind".points, .ofString kind.tag),
  ("display_name".points, .text name),
  ("contact".points, match kind with
    | .contact => .object [
      ("account_public_key".points, .text (octets "account_public_key")),
      ("public_rendezvous_seed".points, .text (octets "public_rendezvous_seed")),
      ("display_name".points, .text name)]
    | .group => .null),
  ("group".points, match kind with
    | .contact => .null
    | .group => .object [
      ("public_key".points, .text (octets "public_key")),
      ("secret".points, .text (octets "secret")),
      ("secret_signature".points, .text (octets "secret_signature")),
      ("group_type".points, .integer 3),
      ("signing_public_key".points, .text (octets "signing_public_key"))])]

/-- The base-64 text of the octets that a field gives, if it gives any. -/
def Members.octetsText (members : Members) (field : String) : Text :=
  match bytesField members field with
  | .ok bs => Base64.encode bs
  | .error _ => []

theorem Members.octetsText_of_bytesField {members : Members} {field : String} {bs : Bytes}
    (h : bytesField members field = .ok bs) : members.octetsText field = Base64.encode bs := by
  rw [octetsText, h]

theorem Members.rewritesAs_octetsText {members : Members} {field : String} {bs : Bytes}
    (h : bytesField members field = .ok bs) :
    members.RewritesAs field (members.octetsText field) := by
  obtain ⟨t, hmember, hdecode⟩ := bytesField_ok_iff.1 h
  refine ⟨t, bs, hmember, hdecode, octetsText_of_bytesField h, ?_⟩
  rintro ⟨bs', rfl⟩
  rw [Base64.decode_encode, Except.ok.injEq] at hdecode
  rw [octetsText_of_bytesField h, hdecode]

namespace Record

variable {kind : Kind} {members : Members} {r : Record}

theorem givesText_of_ofMembers (h : Record.ofMembers kind members = .ok r) :
    members.GivesText "display_name" r.displayName := by
  cases kind with
  | contact =>
      obtain ⟨c, hc, rfl⟩ := map_eq_ok_iff.1 h
      obtain ⟨-, -, hname⟩ := Contact.ofMembers_ok_iff.1 hc
      exact optionalTextField_ok_iff.1 hname
  | group =>
      obtain ⟨g, hg, rfl⟩ := map_eq_ok_iff.1 h
      obtain ⟨d, -, -, -, -, -, -, hname⟩ := GroupInvite.ofMembers_ok_iff.1 hg
      exact optionalTextField_ok_iff.1 hname

theorem rewritesAs_of_ofMembers (h : Record.ofMembers kind members = .ok r) :
    ∀ field ∈ kind.octetFields, members.RewritesAs field (members.octetsText field) := by
  cases kind with
  | contact =>
      obtain ⟨c, hc, rfl⟩ := map_eq_ok_iff.1 h
      obtain ⟨hkey, hseed, -⟩ := Contact.ofMembers_ok_iff.1 hc
      simp only [Kind.octetFields, List.forall_mem_cons]
      exact ⟨Members.rewritesAs_octetsText hkey, Members.rewritesAs_octetsText hseed,
        List.forall_mem_nil _⟩
  | group =>
      obtain ⟨g, hg, rfl⟩ := map_eq_ok_iff.1 h
      obtain ⟨d, -, hkey, hsecret, hsignature, -, hsigning, -⟩ := GroupInvite.ofMembers_ok_iff.1 hg
      simp only [Kind.octetFields, List.forall_mem_cons]
      exact ⟨Members.rewritesAs_octetsText hkey, Members.rewritesAs_octetsText hsecret,
        Members.rewritesAs_octetsText hsignature, Members.rewritesAs_octetsText hsigning,
        List.forall_mem_nil _⟩

/-- A record that a body asks links for, and that has links, is told by what the body gives. -/
theorem toJson_of_ofMembers (h : Record.ofMembers kind members = .ok r) (hr : r.IsShareable) :
    r.toJson = echo kind r.displayName members.octetsText := by
  cases kind with
  | contact =>
      obtain ⟨c, hc, rfl⟩ := map_eq_ok_iff.1 h
      obtain ⟨hkey, hseed, -⟩ := Contact.ofMembers_ok_iff.1 hc
      rw [echo, Members.octetsText_of_bytesField hkey, Members.octetsText_of_bytesField hseed]
      rfl
  | group =>
      obtain ⟨⟨descriptor, name⟩, hg, rfl⟩ := map_eq_ok_iff.1 h
      obtain ⟨d, hd, hkey, hsecret, hsignature, -, hsigning, -⟩ :=
        GroupInvite.ofMembers_ok_iff.1 hg
      obtain ⟨d', hd', htype⟩ := hr
      cases hd
      cases hd'
      rw [echo, Members.octetsText_of_bytesField hkey, Members.octetsText_of_bytesField hsecret,
        Members.octetsText_of_bytesField hsignature, Members.octetsText_of_bytesField hsigning]
      show (Record.group ⟨some d, name⟩).toJson = _
      simp only [toJson, kind, contactJson, descriptorJson, Option.map_some, Option.getD_some,
        Descriptor.toJson, htype]
      rfl

end Record

/-! ## The round trip -/

theorem Reply.created_of_status {reply : Reply} (h : reply.status = 201) :
    ∃ kind links, reply = .created kind links := by
  cases reply with
  | created kind links => exact ⟨kind, links, rfl⟩
  | _ => simp [status] at h

/-- The text that the body of a reply tells under a name, if there is one. -/
def Reply.text? (reply : Reply) (name : String) : Option Text :=
  match reply.body with
  | .object members => Members.text? members name
  | _ => none

/-- A reply with links tells each of them under the name of its form. -/
theorem Reply.text?_created (kind : Kind) (links : Links) :
    (Reply.created kind links).text? "internal" = some links.internal
      ∧ (Reply.created kind links).text? "web" = some links.web :=
  ⟨rfl, rfl⟩

/-- A body that tells the record that a request asked links for, as the request gave it. -/
def Request.EchoedIn (s : Settings) (q : Request) (told : Json) : Prop :=
  ∃ kind members name octets, q.Asks s kind.creator ∧ membersOf q.body = .ok members
    ∧ members.GivesText "display_name" name
    ∧ (∀ field ∈ kind.octetFields, members.RewritesAs field (octets field))
    ∧ told = echo kind name octets

/-- Whoever asks for the links of a record and is answered with status 201 can have either link
    read, with any blanks around it, as long as the padded text is not too long for the service:
    the answer has status 200 and tells the record that was asked for. -/
theorem read_created {s s' : Settings} {q q' : Request} {form lead trail : Text}
    (hcreated : (q.answer s).2.status = 201)
    (hform : (q.answer s).2.text? "internal" = some form
      ∨ (q.answer s).2.text? "web" = some form)
    (hlead : ∀ c ∈ lead, isBlank c = true) (htrail : ∀ c ∈ trail, isBlank c = true)
    (hasks : q'.Asks s' .parseLink) (hgiven : q'.text? "link" = some (lead ++ form ++ trail))
    (hlength : ((lead ++ form ++ trail).length : Int) ≤ s'.maxLinkLength) :
    (q'.answer s').2.status = 200 ∧ q.EchoedIn s (q'.answer s').2.body := by
  obtain ⟨kind, links, hreply⟩ := Reply.created_of_status hcreated
  obtain ⟨hcreator, members, r, hbody, hr, hlinks⟩ := Request.record_of_created hreply
  obtain ⟨hinternal, hweb⟩ := Record.hasLink_of_toLinks hlinks
  have hlink : r.HasLink form := by
    obtain ⟨hfirst, hsecond⟩ := Reply.text?_created kind links
    rw [hreply, hfirst, hsecond, Option.some.injEq, Option.some.injEq] at hform
    rcases hform with rfl | rfl
    · exact hinternal
    · exact hweb
  have hstrip : strip (lead ++ form ++ trail) = form :=
    strip_padded hlead (Record.isVisible_of_hasLink hlink) htrail
  have hparsed : (q'.answer s').2 = .parsed r :=
    Request.answer_parsed hasks hgiven hlength (by rw [hstrip, Record.ofLink_of_hasLink hlink])
      (Record.isScalar_displayName_of_hasLink hlink)
  rw [hparsed]
  exact ⟨rfl, kind, members, r.displayName, members.octetsText, hcreator, hbody,
    Record.givesText_of_ofMembers hr, Record.rewritesAs_of_ofMembers hr,
    Record.toJson_of_ofMembers hr hlink.1⟩

/-- A request for the links of a group; the text of its signature has a bit to spare that is set. -/
def groupRequest : Request where
  method := "POST".points
  target := "/api/v1/links/group".points
  body := Utf8.encode ("\x7b\"public_key\":\"Z3Q=\",\"secret\":\"\",\"secret_signature\":\"AAB=\","
    ++ "\"signing_public_key\":\"/+8=\",\"display_name\":\"a/b é\"\x7d").toList

/-- A request to read the web link of that group, between blanks. -/
def pasteRequest : Request where
  method := "POST".points
  target := "/api/v1/links/parse".points
  body := Utf8.encode ("\x7b\"link\":\" \\t\u2003https://berty.tech/id#group/"
    ++ "25hVKFftDZZuJFw93FpRU1Kga/name=a%2Fb+%C3%A9\\n\"\x7d").toList

theorem read_created_group :
    (groupRequest.answer {}).2.status = 201
      ∧ (pasteRequest.answer {}).2.status = 200
      ∧ groupRequest.EchoedIn {} (pasteRequest.answer {}).2.body := by
  obtain ⟨hcreated, hform⟩ : (groupRequest.answer {}).2.status = 201
      ∧ (groupRequest.answer {}).2.text? "web"
        = some "https://berty.tech/id#group/25hVKFftDZZuJFw93FpRU1Kga/name=a%2Fb+%C3%A9".points :=
    by decide +kernel
  have hgiven : pasteRequest.text? "link" = some (" \t\u2003".points
      ++ "https://berty.tech/id#group/25hVKFftDZZuJFw93FpRU1Kga/name=a%2Fb+%C3%A9".points
      ++ "\n".points) := by decide +kernel
  have hasks : pasteRequest.Asks {} .parseLink := by decide +kernel
  have hlead : (" \t\u2003".points).all isBlank = true := by decide
  have htrail : ("\n".points).all isBlank = true := by decide
  exact ⟨hcreated,
    read_created hcreated (.inr hform) (List.all_eq_true.1 hlead) (List.all_eq_true.1 htrail)
      hasks hgiven (by decide)⟩

end InviteLink
