import InviteLink.Proofs.Candidate
import InviteLink.Proofs.Service.Faults
import InviteLink.Proofs.Service.RoundTrip

set_option autoImplicit false

/-! # What is answered to whoever asks for links

A body that asks for the links of a record is answered by what its members give and by nothing
else (`Request.answer_members`). The faults of its fields come first. A record that is read off the
body has its links, or lacks a key, or is a group of a type that is not shared; these refusals have
one code for each kind (`Members.Describes.code_of_requireShareable`). The service fails where the
report of the faults would repeat what cannot be written, or the name of a record that may be
shared holds surrogates (`Kind.FailsOn`); a body that can itself be written is always answered. No
field asks for other members, and what is told of a fault does not show them
(`Reply.toMembers_congr`). -/

namespace InviteLink

/-! ## The answer -/

/-- What is answered to a body that asks for the links of a record: the faults of its fields, or
    what sharing the record gives. -/
def Reply.toMembers (kind : Kind) (members : Members) : Reply :=
  match Record.ofMembers kind members with
  | .error issues => written (.malformed issues)
  | .ok r => ofOutcome (r.toLinks.outcome.map (.created kind))

theorem Kind.creator_ne_health (kind : Kind) : kind.creator ≠ .health := by
  cases kind <;> decide

theorem Request.answer_members {s : Settings} {q : Request} {kind : Kind} {members : Members}
    (hasks : q.Asks s kind.creator) (hbody : membersOf q.body = .ok members) :
    (q.answer s).2 = .toMembers kind members := by
  rw [answer_of_asks hasks, Endpoint.answer_eq, Endpoint.respond_eq kind.creator_ne_health, hbody]
  dsimp only
  rw [Endpoint.run_creator, Reply.toMembers]
  cases hrecord : Record.ofMembers kind members with
  | error issues => rfl
  | ok r =>
      dsimp only
      rw [outcome_createLinks, Record.kind_of_ofMembers hrecord]

/-! ## Failures -/

/-- The report of the faults of a body repeats something that cannot be written. -/
def Kind.RepeatsFlaw (kind : Kind) (members : Members) : Prop :=
  ∃ field, kind.Refuses members field ∧ (members.inputOf field).Flawed

/-- The members of a body describe a record that may be shared but whose name holds surrogates. -/
def Kind.NamesUnwritable (kind : Kind) (members : Members) : Prop :=
  ∃ r, members.Describes kind r ∧ r.IsShareable ∧ r.displayName.isScalar = false

/-- What the members of a body ask for cannot be told: neither their faults nor their links. -/
def Kind.FailsOn (kind : Kind) (members : Members) : Prop :=
  kind.RepeatsFlaw members ∨ kind.NamesUnwritable members

section Failures

variable {kind : Kind} {members : Members} {r : Record}

theorem Kind.RepeatsFlaw.misfits (h : kind.RepeatsFlaw members) : members.Misfits kind := by
  obtain ⟨field, hrefuses, -⟩ := h
  exact Kind.exists_refuses_iff.1 ⟨field, hrefuses⟩

theorem Kind.flawed_issues_iff :
    (Reply.malformed (kind.issues members)).Flawed ↔ kind.RepeatsFlaw members :=
  Reply.flawed_malformed_iff.trans Kind.exists_issue_iff

/-- The members of a body describe one record at most. -/
theorem Members.Describes.unique {r' : Record} (h : members.Describes kind r)
    (h' : members.Describes kind r') : r = r' := by
  rw [← Record.ofMembers_ok_iff] at h h'
  exact Except.ok.inj (h.symm.trans h')

/-- The members of a body describe a record unless they misfit. -/
theorem Members.exists_describes_iff :
    (∃ r, members.Describes kind r) ↔ ¬members.Misfits kind := by
  rw [← Record.ofMembers_error_iff, exists_eq_error_iff, not_not]
  exact exists_congr fun _ => Record.ofMembers_ok_iff.symm

/-- A name that holds surrogates is given as a member. -/
theorem Members.GivesText.flawed {name : String} {t : Text} (h : members.GivesText name t)
    (ht : t.isScalar = false) : (Json.object members).Flawed := by
  obtain hmember | ⟨-, rfl⟩ := h
  · exact flawed_of_get? hmember (Json.flawed_text_iff.2 ht)
  · cases ht

/-- The service does not fail on an object that can itself be written. -/
theorem Kind.FailsOn.flawed (h : kind.FailsOn members) : (Json.object members).Flawed := by
  obtain ⟨field, -, hflawed⟩ | ⟨r, hr, -, hname⟩ := h
  · exact Members.flawed_of_flawed_inputOf hflawed
  · exact (Record.givesText_of_ofMembers (Record.ofMembers_ok_iff.2 hr)).flawed hname

end Failures

/-! ## Records that are refused -/

theorem Members.GivesOctets.unique {members : Members} {name : String} {bs bs' : Bytes}
    (h : members.GivesOctets name bs) (h' : members.GivesOctets name bs') : bs = bs' := by
  rw [← bytesField_ok_iff] at h h'
  exact Except.ok.inj (h.symm.trans h')

theorem Members.GivesType.unique {members : Members} {name : String} {t t' : GroupType}
    (h : members.GivesType name t) (h' : members.GivesType name t') : t = t' := by
  rw [← groupTypeField_ok_iff] at h h'
  exact Except.ok.inj (h.symm.trans h')

/-- The members of a body give what a link of the kind cannot be made of: an empty key of a contact,
    or a group type other than that of many members. -/
def Members.Unshareable (members : Members) : Kind → Prop
  | .contact => ∃ field ∈ Kind.contact.octetFields, members.GivesOctets field []
  | .group =>
    ∃ v t, members.get? "group_type" = some v ∧ GroupType.Spells v t ∧ t ≠ .multiMember

/-- The code of the refusals that a record of a kind can meet when it is described in full. -/
def Kind.refusalCode : Kind → String
  | .contact => "missing_input"
  | .group => "invalid_input"

section Described

variable {kind : Kind} {members : Members} {r : Record}

theorem Members.Describes.unshareable_iff (h : members.Describes kind r) :
    members.Unshareable kind ↔ ¬r.IsShareable := by
  cases kind with
  | contact =>
      cases r with
      | contact c =>
          obtain ⟨hkey, hseed, -⟩ := h
          have hkey' : members.GivesOctets "account_public_key" [] ↔ c.accountKey = [] :=
            ⟨hkey.unique, fun hempty => hempty ▸ hkey⟩
          have hseed' : members.GivesOctets "public_rendezvous_seed" [] ↔ c.seed = [] :=
            ⟨hseed.unique, fun hempty => hempty ▸ hseed⟩
          simp only [Unshareable, Kind.octetFields, List.mem_cons, List.not_mem_nil, or_false,
            exists_eq_or_imp, exists_eq_left, hkey', hseed', Record.IsShareable, ne_eq]
          grind
      | group g => exact h.elim
  | group =>
      cases r with
      | contact c => exact h.elim
      | group g =>
          obtain ⟨d, hd, -, -, -, htype, -⟩ := h
          have hshareable : (Record.group g).IsShareable ↔ d.groupType = .multiMember := by
            simp [Record.IsShareable, hd]
          rw [hshareable]
          constructor
          · rintro ⟨v, t, hmember, hspells, hother⟩
            rwa [htype.unique (Or.inl ⟨v, hmember, hspells⟩)]
          · intro hother
            obtain ⟨v, hmember, hspells⟩ | ⟨-, hdefault⟩ := htype
            · exact ⟨v, d.groupType, hmember, hspells, hother⟩
            · exact absurd hdefault hother

theorem Members.Describes.code_of_requireShareable {e : Refusal} (h : members.Describes kind r)
    (he : r.requireShareable.outcome = .error e) : e.code = kind.refusalCode := by
  cases kind with
  | contact =>
      cases r with
      | contact c =>
          rw [Record.requireShareable, Contact.requireShareable] at he
          split_ifs at he
          · cases he
            rfl
          · cases he
            rfl
      | group g => exact h.elim
  | group =>
      cases r with
      | contact c => exact h.elim
      | group g =>
          obtain ⟨d, hd, -⟩ := h
          simp only [Record.requireShareable, GroupInvite.requireShareable, hd] at he
          split_ifs at he
          cases he
          rfl

end Described

/-! ## All answers -/

namespace Reply

section Cases

variable {kind : Kind} {members : Members} {r : Record}

theorem toMembers_of_shareable (h : members.Describes kind r) (hr : r.IsShareable)
    (hname : r.displayName.isScalar = true) :
    ∃ links, r.toLinks.outcome = .ok links
      ∧ Reply.toMembers kind members = .created kind links := by
  obtain ⟨links, hlinks⟩ := Record.exists_toLinks_iff.2 ⟨hr, hname⟩
  refine ⟨links, hlinks, ?_⟩
  rw [toMembers, Record.ofMembers_ok_iff.2 h]
  dsimp only
  rw [hlinks]
  exact written_of_not_flawed (not_flawed_created hlinks kind)

theorem toMembers_of_unshareable (h : members.Describes kind r) (hr : ¬r.IsShareable) :
    ∃ cause, Reply.toMembers kind members = .refused cause ∧ cause.code = kind.refusalCode := by
  obtain ⟨cause, hcause⟩ : ∃ cause, r.requireShareable.outcome = .error cause := by
    rw [exists_eq_error_iff]
    rintro ⟨⟨⟩, hok⟩
    exact hr (Record.requireShareable_ok_iff.1 hok)
  refine ⟨cause, ?_, h.code_of_requireShareable hcause⟩
  rw [toMembers, Record.ofMembers_ok_iff.2 h]
  dsimp only
  rw [Record.toLinks_of_refused hcause]
  rfl

theorem toMembers_of_misfits (h : members.Misfits kind) (hfails : ¬kind.FailsOn members) :
    Reply.toMembers kind members = .malformed (kind.issues members) := by
  obtain ⟨issues, hissues⟩ := Record.ofMembers_error_iff.2 h
  rw [toMembers, hissues, Record.issues_of_ofMembers hissues]
  exact written_of_not_flawed fun hflawed => hfails (Or.inl (Kind.flawed_issues_iff.1 hflawed))

theorem toMembers_of_failsOn (h : kind.FailsOn members) :
    Reply.toMembers kind members = .failed := by
  obtain hrepeats | ⟨r, hr, hshareable, hname⟩ := h
  · obtain ⟨issues, hissues⟩ := Record.ofMembers_error_iff.2 hrepeats.misfits
    rw [toMembers, hissues, Record.issues_of_ofMembers hissues]
    exact written_of_flawed (Kind.flawed_issues_iff.2 hrepeats)
  · obtain ⟨f, hf⟩ := exists_scalars_eq_error_iff.2 hname
    rw [toMembers, Record.ofMembers_ok_iff.2 hr]
    dsimp only
    rw [Record.toLinks_of_isShareable hshareable, hf]
    rfl

/-- Where the service does not fail, the members of a body misfit and are told their faults, or
    describe a record, which is refused or shared. -/
theorem toMembers_cases (hfails : ¬kind.FailsOn members) :
    (members.Misfits kind ∧ Reply.toMembers kind members = .malformed (kind.issues members))
      ∨ ∃ r, members.Describes kind r
        ∧ ((¬r.IsShareable ∧ ∃ cause, Reply.toMembers kind members = .refused cause
              ∧ cause.code = kind.refusalCode)
          ∨ (r.IsShareable ∧ ∃ links, r.toLinks.outcome = .ok links
              ∧ Reply.toMembers kind members = .created kind links)) := by
  by_cases hfits : members.Misfits kind
  · exact .inl ⟨hfits, toMembers_of_misfits hfits hfails⟩
  · obtain ⟨r, hr⟩ := Members.exists_describes_iff.2 hfits
    refine .inr ⟨r, hr, ?_⟩
    by_cases hshareable : r.IsShareable
    · have hname : r.displayName.isScalar = true := by
        by_contra hname
        rw [Bool.not_eq_true] at hname
        exact hfails (Or.inr ⟨r, hr, hshareable, hname⟩)
      exact .inr ⟨hshareable, toMembers_of_shareable hr hshareable hname⟩
    · exact .inl ⟨hshareable, toMembers_of_unshareable hr hshareable⟩

theorem status_toMembers_mem (hfails : ¬kind.FailsOn members) :
    (Reply.toMembers kind members).status ∈ [201, 400, 422] := by
  obtain ⟨-, hreply⟩ | ⟨r, -, ⟨-, cause, hreply, -⟩ | ⟨-, links, -, hreply⟩⟩ :=
    toMembers_cases hfails
  · simp [hreply, status]
  · simp [hreply, status]
  · simp [hreply, status]

theorem status_toMembers_eq_iff :
    (Reply.toMembers kind members).status = 500 ↔ kind.FailsOn members := by
  constructor
  · intro hstatus
    by_contra hfails
    have hmem := status_toMembers_mem hfails
    rw [hstatus] at hmem
    simp at hmem
  · intro h
    rw [toMembers_of_failsOn h, status]

end Cases

end Reply

/-! ## Other members -/

section Fields

variable {members members' : Members} {name : String}

/-- What is told of a field depends on the member of its name alone. -/
theorem told_bytesField (h : members'.get? name = members.get? name) :
    (bytesField members' name).mapError Issue.toJson
      = (bytesField members name).mapError Issue.toJson := by
  unfold bytesField
  rw [h]
  cases members.get? name with
  | none => rfl
  | some v => cases v <;> rfl

theorem told_optionalTextField (h : members'.get? name = members.get? name) :
    (optionalTextField members' name).mapError Issue.toJson
      = (optionalTextField members name).mapError Issue.toJson := by
  unfold optionalTextField
  rw [h]

theorem told_groupTypeField (h : members'.get? name = members.get? name) :
    (groupTypeField members' name).mapError Issue.toJson
      = (groupTypeField members name).mapError Issue.toJson := by
  unfold groupTypeField
  rw [h]

/-- Fields of which the same is told have the same faults. -/
theorem map_toJson_issueOf {α : Type} {x x' : Except Issue α}
    (h : x'.mapError Issue.toJson = x.mapError Issue.toJson) :
    (issueOf x').map Issue.toJson = (issueOf x).map Issue.toJson := by
  cases x with
  | ok a =>
      rw [mapError_eq_ok_iff.1 h]
  | error i =>
      obtain ⟨i', rfl, hi⟩ := mapError_eq_error_iff.1 h
      simp only [issueOf, List.map_cons, hi, List.map_nil]

end Fields

/-- The record and the faults that are told of a body depend on the members of its fields alone. -/
theorem Kind.map_toJson_issues {kind : Kind} {members members' : Members}
    (h : ∀ field ∈ kind.fields, members'.get? field = members.get? field) :
    (kind.issues members').map Issue.toJson = (kind.issues members).map Issue.toJson := by
  cases kind with
  | contact =>
      simp only [fields, List.forall_mem_cons] at h
      obtain ⟨hkey, hseed, hname, -⟩ := h
      simp only [issues, List.map_append, map_toJson_issueOf (told_bytesField hkey),
        map_toJson_issueOf (told_bytesField hseed),
        map_toJson_issueOf (told_optionalTextField hname)]
  | group =>
      simp only [fields, List.forall_mem_cons] at h
      obtain ⟨hkey, hsecret, hsignature, htype, hsigning, hname, -⟩ := h
      simp only [issues, List.map_append, map_toJson_issueOf (told_bytesField hkey),
        map_toJson_issueOf (told_bytesField hsecret),
        map_toJson_issueOf (told_bytesField hsignature),
        map_toJson_issueOf (told_groupTypeField htype),
        map_toJson_issueOf (told_bytesField hsigning),
        map_toJson_issueOf (told_optionalTextField hname)]

theorem Members.describes_congr {kind : Kind} {members members' : Members} {r : Record}
    (h : ∀ field ∈ kind.fields, members'.get? field = members.get? field) :
    members'.Describes kind r ↔ members.Describes kind r := by
  cases kind with
  | contact =>
      simp only [Kind.fields, List.forall_mem_cons] at h
      obtain ⟨hkey, hseed, hname, -⟩ := h
      cases r with
      | contact c => simp only [Describes, GivesOctets, GivesText, hkey, hseed, hname]
      | group g => rfl
  | group =>
      simp only [Kind.fields, List.forall_mem_cons] at h
      obtain ⟨hkey, hsecret, hsignature, htype, hsigning, hname, -⟩ := h
      cases r with
      | contact c => rfl
      | group g =>
          simp only [Describes, GivesOctets, GivesType, GivesText, hkey, hsecret, hsignature,
            htype, hsigning, hname]

theorem Kind.mem_fields_of_refuses {kind : Kind} {members : Members} {field : String}
    (h : kind.Refuses members field) : field ∈ kind.fields := by
  have hoctets : kind.octetFields ⊆ kind.fields := by cases kind <;> decide
  obtain ⟨hmem, -⟩ | ⟨rfl, -⟩ | ⟨rfl, rfl, -⟩ := h
  · exact hoctets hmem
  · cases kind <;> decide
  · decide

theorem Kind.refuses_congr {kind : Kind} {members members' : Members} {field : String}
    (h : members'.get? field = members.get? field) :
    kind.Refuses members' field ↔ kind.Refuses members field := by
  simp only [Refuses, Members.LacksOctets, Members.MisgivesText, Members.MisgivesType, h]

/-- A body that gives all octets is repeated field by field and not as a whole. -/
theorem Kind.get?_ne_none_of_refuses {kind : Kind} {members : Members} {field : String}
    (h : kind.Refuses members field)
    (hgiven : ∀ field ∈ kind.octetFields, members.get? field ≠ none) :
    members.get? field ≠ none := by
  obtain ⟨hmem, -⟩ | ⟨-, v, hmember, -⟩ | ⟨-, -, v, hmember, -⟩ := h
  · exact hgiven field hmem
  · simp [hmember]
  · simp [hmember]

theorem Members.inputOf_congr {members members' : Members} {field : String}
    (h : members'.get? field = members.get? field) (hgiven : members.get? field ≠ none) :
    members'.inputOf field = members.inputOf field := by
  obtain ⟨v, hmember⟩ := Option.ne_none_iff_exists'.1 hgiven
  rw [inputOf, inputOf, h, hmember, Option.getD_some, Option.getD_some]

section Congr

variable {kind : Kind} {members members' : Members}
  (h : ∀ field ∈ kind.fields, members'.get? field = members.get? field)

include h

/-- Where all octets are given, members that no field asks for do not make the service fail. -/
theorem Kind.failsOn_congr (hgiven : ∀ field ∈ kind.octetFields, members.get? field ≠ none) :
    kind.FailsOn members' ↔ kind.FailsOn members := by
  have hrepeats : kind.RepeatsFlaw members' ↔ kind.RepeatsFlaw members := by
    refine exists_congr fun field => ?_
    by_cases hfield : field ∈ kind.fields
    · rw [Kind.refuses_congr (h field hfield)]
      refine and_congr_right fun hrefuses => ?_
      rw [Members.inputOf_congr (h field hfield)
        (Kind.get?_ne_none_of_refuses hrefuses hgiven)]
    · exact iff_of_false (fun h => hfield (Kind.mem_fields_of_refuses h.1))
        fun h => hfield (Kind.mem_fields_of_refuses h.1)
  simp only [FailsOn, hrepeats, NamesUnwritable, Members.describes_congr h]

theorem Reply.toMembers_congr (hfails : kind.FailsOn members' ↔ kind.FailsOn members) :
    (Reply.toMembers kind members').status = (Reply.toMembers kind members).status
      ∧ (Reply.toMembers kind members').body = (Reply.toMembers kind members).body := by
  by_cases hrecord : ∃ r, members.Describes kind r
  · obtain ⟨r, hr⟩ := hrecord
    have hr' := (Members.describes_congr h).2 hr
    rw [toMembers, toMembers, Record.ofMembers_ok_iff.2 hr, Record.ofMembers_ok_iff.2 hr']
    exact ⟨rfl, rfl⟩
  · have hmisfits := not_not.1 (mt Members.exists_describes_iff.2 hrecord)
    have hrecord' : ¬∃ r, members'.Describes kind r := by
      simpa only [Members.describes_congr h] using hrecord
    have hmisfits' := not_not.1 (mt Members.exists_describes_iff.2 hrecord')
    by_cases hfailsOn : kind.FailsOn members
    · rw [toMembers_of_failsOn hfailsOn, toMembers_of_failsOn (hfails.2 hfailsOn)]
      exact ⟨rfl, rfl⟩
    · rw [toMembers_of_misfits hmisfits hfailsOn,
        toMembers_of_misfits hmisfits' (mt hfails.1 hfailsOn)]
      refine ⟨rfl, ?_⟩
      simp only [body, Kind.map_toJson_issues h]

end Congr

/-- A request for the links of a group with no octets, whose type is given as a boolean. -/
def accountRequest : Request where
  method := "POST".points
  target := "/api/v1/links/group".points
  body := Utf8.encode ("\x7b\"public_key\":\"\",\"secret\":\"\",\"secret_signature\":\"\","
    ++ "\"signing_public_key\":\"\",\"group_type\":true\x7d").toList

/-- A request for the links of a contact that gives no keys but a surrogate beside them. -/
def surrogateNoteRequest : Request where
  method := "POST".points
  target := "/api/v1/links/contact".points
  body := Utf8.encode "\x7b\"note\":\"\\ud800\"\x7d".toList

end InviteLink
