import InviteLink.Proofs.Service.Reply
import InviteLink.Proofs.Service.Request
import InviteLink.Service.Endpoint
import Mathlib.Tactic.SplitIfs

set_option autoImplicit false

/-! # What is answered to whom

The paths of the endpoints end in different characters, so a request reaches one endpoint at most,
whatever the settings put in front (`Endpoint.at?_eq_some_iff`), and every other request is
answered that there is nothing, or not by this method (`Request.answer_cases`). What an endpoint
makes of a body is told as it is if it can be written (`Endpoint.answer_eq`), and a status below
300 says that it was (`Endpoint.respond_of_status_lt`). So links are told only of a record that was
read off the body (`Request.record_of_created`), and what is answered to a link is what reading it
gives (`Request.answer_link`). -/

namespace InviteLink

/-! ## Which endpoint a request is for -/

namespace Endpoint

/-- The part of a path that the settings have no say in. -/
def ending : Endpoint → Text
  | .createContact => "/links/contact".points
  | .createGroup => "/links/group".points
  | .parseLink => "/links/parse".points
  | .health => "/health".points

theorem path_eq (s : Settings) (e : Endpoint) : ∃ front, e.path s = front ++ e.ending := by
  cases e with
  | health => exact ⟨[], rfl⟩
  | _ => exact ⟨s.apiRoot, rfl⟩

theorem getLast?_path (s : Settings) (e : Endpoint) :
    (e.path s).getLast? = e.ending.getLast? := by
  obtain ⟨front, hpath⟩ := path_eq s e
  obtain ⟨c, hc⟩ : ∃ c, e.ending.getLast? = some c := by cases e <;> exact ⟨_, rfl⟩
  rw [hpath, List.getLast?_append, hc]
  rfl

theorem path_injective {s : Settings} {e e' : Endpoint} (h : e.path s = e'.path s) : e = e' := by
  have hlast : e.ending.getLast? = e'.ending.getLast? := by
    rw [← getLast?_path s, ← getLast?_path s, h]
  revert hlast
  cases e <;> cases e' <;> decide

theorem path_of_at? {s : Settings} {p : Text} {e : Endpoint} (h : at? s p = some e) :
    e.path s = p := by
  rw [at?] at h
  have hpath := List.find?_some h
  rwa [beq_iff_eq] at hpath

/-- An endpoint is found at its path and nowhere else. -/
theorem at?_eq_some_iff {s : Settings} {p : Text} {e : Endpoint} :
    at? s p = some e ↔ e.path s = p := by
  constructor
  · exact path_of_at?
  · intro h
    have hfound : (at? s p).isSome = true := by
      rw [at?, List.find?_isSome]
      exact ⟨e, by cases e <;> simp, by simp [h]⟩
    obtain ⟨e', he'⟩ := Option.isSome_iff_exists.1 hfound
    rw [he', path_injective (h.trans (path_of_at? he').symm)]

end Endpoint

/-- A request for an endpoint: its target is the path of the endpoint, and its method, capitals or
    not, the one that the endpoint answers to. -/
def Request.Asks (s : Settings) (e : Endpoint) (q : Request) : Prop :=
  pathOfTarget q.target = e.path s ∧ capitals q.method = e.method

instance (s : Settings) (e : Endpoint) (q : Request) : Decidable (q.Asks s e) :=
  inferInstanceAs (Decidable (_ ∧ _))

theorem Request.answer_of_asks {s : Settings} {e : Endpoint} {q : Request} (h : q.Asks s e) :
    q.answer s = e.answer s q.body := by
  rw [answer, Endpoint.at?_eq_some_iff.2 h.1.symm]
  exact if_pos h.2

/-- A request is for an endpoint, or it is told that there is none or that its method is wrong. -/
theorem Request.answer_cases (s : Settings) (q : Request) :
    (∃ e, q.Asks s e) ∨ (q.answer s).2 = .notFound ∨ (q.answer s).2 = .methodNotAllowed := by
  rw [answer]
  cases hat : Endpoint.at? s (pathOfTarget q.target) with
  | none => exact Or.inr (Or.inl rfl)
  | some e =>
      by_cases hmethod : capitals q.method = e.method
      · exact Or.inl ⟨e, (Endpoint.at?_eq_some_iff.1 hat).symm, hmethod⟩
      · simp [if_neg hmethod]

/-! ## What is told of what was made of a body -/

namespace Reply

/-- An answer as it is sent: what cannot be written is a failure. -/
def written (reply : Reply) : Reply := if reply.Flawed then .failed else reply

theorem written_of_flawed {reply : Reply} (h : reply.Flawed) : reply.written = .failed := if_pos h

theorem written_of_not_flawed {reply : Reply} (h : ¬reply.Flawed) : reply.written = reply :=
  if_neg h

/-- The answer that is sent where an endpoint comes to an outcome. -/
def ofOutcome : Except SharingFault Reply → Reply
  | .ok reply => reply.written
  | .error (.refused cause) => .refused cause
  | .error (.unwritable _) => .failed

/-- An answer of a status below 300 is what the endpoint came to. -/
theorem eq_ok_of_status_lt {outcome : Except SharingFault Reply}
    (h : (ofOutcome outcome).status < 300) : outcome = .ok (ofOutcome outcome) := by
  cases outcome with
  | error fault => cases fault <;> exact absurd h (by simp [ofOutcome, status])
  | ok reply =>
      by_cases hflawed : reply.Flawed
      · rw [ofOutcome, written_of_flawed hflawed] at h
        exact absurd h (by simp [status])
      · rw [ofOutcome, written_of_not_flawed hflawed]

end Reply

namespace Endpoint

variable {s : Settings} {e : Endpoint} {body : Bytes}

theorem answer_eq : (e.answer s body).2 = .ofOutcome (e.respond s body).outcome := by
  rw [answer]
  cases (e.respond s body).outcome with
  | error fault => cases fault <;> rfl
  | ok reply =>
      rw [Reply.ofOutcome]
      by_cases hflawed : reply.Flawed
      · obtain ⟨flaw, hflaw⟩ := Reply.exists_unwritable?_eq_some hflawed
        simp only [hflaw, Reply.written_of_flawed hflawed]
      · simp only [Reply.unwritable?_eq_none_iff.2 hflawed, Reply.written_of_not_flawed hflawed]

theorem respond_of_status_lt (h : (e.answer s body).2.status < 300) :
    (e.respond s body).outcome = .ok (e.answer s body).2 := by
  rw [answer_eq] at h ⊢
  exact Reply.eq_ok_of_status_lt h

end Endpoint

/-! ## Links that are made -/

/-- The endpoint that makes links of a kind. -/
def Kind.creator : Kind → Endpoint
  | .contact => .createContact
  | .group => .createGroup

theorem Endpoint.creates_or_reads (e : Endpoint) :
    (∃ kind : Kind, e = kind.creator) ∨ e = .parseLink ∨ e = .health := by
  cases e with
  | createContact => exact Or.inl ⟨.contact, rfl⟩
  | createGroup => exact Or.inl ⟨.group, rfl⟩
  | parseLink => exact Or.inr (Or.inl rfl)
  | health => exact Or.inr (Or.inr rfl)

theorem outcome_createLinks (r : Record) :
    (createLinks r).outcome = r.toLinks.outcome.map (.created r.kind) := by
  rw [createLinks, Traced.outcome_bind]
  cases r.toLinks.outcome <;> rfl

theorem createLinks_ok_iff {r : Record} {reply : Reply} :
    (createLinks r).outcome = .ok reply
      ↔ ∃ links, r.toLinks.outcome = .ok links ∧ Reply.created r.kind links = reply := by
  rw [outcome_createLinks, map_eq_ok_iff]

theorem Record.kind_of_ofMembers {kind : Kind} {members : Members} {r : Record}
    (h : Record.ofMembers kind members = .ok r) : r.kind = kind := by
  cases kind with
  | contact =>
      rw [ofMembers, map_eq_ok_iff] at h
      obtain ⟨c, -, rfl⟩ := h
      rfl
  | group =>
      rw [ofMembers, map_eq_ok_iff] at h
      obtain ⟨g, -, rfl⟩ := h
      rfl

namespace Endpoint

variable {s : Settings} {e : Endpoint} {body : Bytes}

theorem run_creator (s : Settings) (kind : Kind) (members : Members) :
    kind.creator.run s members = match Record.ofMembers kind members with
      | .error issues => pure (.malformed issues)
      | .ok r => createLinks r := by
  cases kind with
  | contact =>
      simp only [Kind.creator, run, Record.ofMembers]
      cases Contact.ofMembers members <;> rfl
  | group =>
      simp only [Kind.creator, run, Record.ofMembers]
      cases GroupInvite.ofMembers members <;> rfl

/-- An endpoint tells links of a record that it read off the members of a body. -/
theorem run_creator_created {kind kind' : Kind} {members : Members} {links : Links}
    (h : (kind.creator.run s members).outcome = .ok (.created kind' links)) :
    kind = kind' ∧ ∃ r, Record.ofMembers kind' members = .ok r ∧ r.toLinks.outcome = .ok links := by
  rw [run_creator] at h
  cases hrecord : Record.ofMembers kind members with
  | error issues =>
      rw [hrecord] at h
      cases h
  | ok r =>
      rw [hrecord] at h
      obtain ⟨links', hlinks, hcreated⟩ := createLinks_ok_iff.1 h
      cases hcreated
      have hkind := Record.kind_of_ofMembers hrecord
      exact ⟨hkind.symm, r, by rw [hkind, hrecord], hlinks⟩

/-- Reading a link makes none. -/
theorem run_parseLink_not_created {kind : Kind} {members : Members} {links : Links} :
    (Endpoint.parseLink.run s members).outcome ≠ .ok (.created kind links) := by
  intro h
  rw [run] at h
  split at h
  · cases h
  · rw [Traced.outcome_bind, bind_eq_ok_iff] at h
    obtain ⟨r, -, hparsed⟩ := h
    cases hparsed

theorem respond_eq (he : e ≠ .health) :
    e.respond s body = match membersOf body with
      | .error reply => pure reply
      | .ok members => e.run s members := by
  cases e with
  | health => exact absurd rfl he
  | _ => rfl

/-- A body without members is answered without links. -/
theorem status_of_membersOf {reply : Reply} (h : membersOf body = .error reply) :
    400 ≤ reply.status := by
  unfold membersOf at h
  split_ifs at h
  · cases h
    simp [Reply.status]
  · split at h
    all_goals cases h
    all_goals simp [Reply.status]

theorem membersOf_of_respond_created {kind : Kind} {links : Links}
    (h : (e.respond s body).outcome = .ok (.created kind links)) :
    ∃ members, membersOf body = .ok members
      ∧ (e.run s members).outcome = .ok (.created kind links) := by
  have he : e ≠ .health := by
    rintro rfl
    cases h
  rw [respond_eq he] at h
  cases hbody : membersOf body with
  | error reply =>
      have hstatus := status_of_membersOf hbody
      rw [hbody] at h
      cases h
      exact absurd hstatus (by simp [Reply.status])
  | ok members =>
      rw [hbody] at h
      exact ⟨members, rfl, h⟩

/-- An endpoint tells links only of a body that it read as one of a record, and then the links of
    the record. -/
theorem record_of_respond_created {kind : Kind} {links : Links}
    (h : (e.respond s body).outcome = .ok (.created kind links)) :
    e = kind.creator ∧ ∃ members r, membersOf body = .ok members
      ∧ Record.ofMembers kind members = .ok r ∧ r.toLinks.outcome = .ok links := by
  obtain ⟨members, hbody, hrun⟩ := membersOf_of_respond_created h
  rcases e.creates_or_reads with ⟨kind', rfl⟩ | rfl | rfl
  · obtain ⟨rfl, r, hr, hlinks⟩ := run_creator_created hrun
    exact ⟨rfl, members, r, hbody, hr, hlinks⟩
  · exact absurd hrun run_parseLink_not_created
  · cases hrun

end Endpoint

/-- A request that is answered with links was one for the endpoint of their kind, and its body held
    a record, which has these links. -/
theorem Request.record_of_created {s : Settings} {q : Request} {kind : Kind} {links : Links}
    (h : (q.answer s).2 = .created kind links) :
    q.Asks s kind.creator ∧ ∃ members r, membersOf q.body = .ok members
      ∧ Record.ofMembers kind members = .ok r ∧ r.toLinks.outcome = .ok links := by
  rcases q.answer_cases s with ⟨e, hasks⟩ | hnone | hmethod
  · rw [answer_of_asks hasks] at h
    have hrespond := @Endpoint.respond_of_status_lt s e q.body (by simp [h, Reply.status])
    rw [h] at hrespond
    obtain ⟨rfl, hrecord⟩ := Endpoint.record_of_respond_created hrespond
    exact ⟨hasks, hrecord⟩
  · rw [hnone] at h
    cases h
  · rw [hmethod] at h
    cases h

/-! ## Links that are read -/

/-- The text that the body of a request gives under a name, if there is one. -/
def Request.text? (q : Request) (name : String) : Option Text :=
  match membersOf q.body with
  | .ok members => members.text? name
  | .error _ => none

theorem Request.text?_eq_some_iff {q : Request} {name : String} {t : Text} :
    q.text? name = some t ↔ ∃ members, membersOf q.body = .ok members
      ∧ members.get? name = some (.text t) := by
  unfold text?
  cases membersOf q.body <;> simp [Members.text?_eq_some_iff]

/-- What is answered to a request that gives a link: the length of the text as it was given comes
    first, and then the reading of the text without the blanks around it. The answer repeats a text
    that is too long, and shows the name of a record. -/
def Reply.toLink (s : Settings) (t : Text) : Reply :=
  if s.maxLinkLength < t.length then
    written (.malformed [⟨[.field "link"], .linkTooLong s.maxLinkLength, .text t⟩])
  else
    match (Record.ofLink (strip t)).outcome with
    | .ok r => written (.parsed r)
    | .error cause => .refused cause

theorem Request.answer_link {s : Settings} {q : Request} {t : Text}
    (hasks : q.Asks s .parseLink) (hgiven : q.text? "link" = some t) :
    (q.answer s).2 = .toLink s t := by
  obtain ⟨members, hbody, hlink⟩ := text?_eq_some_iff.1 hgiven
  rw [answer_of_asks hasks, Endpoint.answer_eq, Endpoint.respond_eq (by decide), hbody,
    Reply.toLink]
  dsimp only
  rw [Endpoint.run, linkOfMembers_of_text hlink]
  split_ifs with hlong
  · rfl
  · dsimp only
    rw [Traced.outcome_bind, Traced.outcome_mapFault]
    cases (Record.ofLink (strip t)).outcome <;> rfl

/-- A link that is not too long is read without the blanks around it, and its record is told if its
    name can be written. -/
theorem Request.answer_parsed {s : Settings} {q : Request} {t : Text} {r : Record}
    (hasks : q.Asks s .parseLink) (hgiven : q.text? "link" = some t)
    (hlength : (t.length : Int) ≤ s.maxLinkLength)
    (hr : (Record.ofLink (strip t)).outcome = .ok r) (hname : r.displayName.isScalar = true) :
    (q.answer s).2 = .parsed r := by
  rw [answer_link hasks hgiven, Reply.toLink, if_neg (by omega), hr]
  exact Reply.written_of_not_flawed (by simp [Reply.flawed_parsed_iff, hname])

end InviteLink
