import InviteLink.Proofs.Link.Logged
import InviteLink.Proofs.Service.Creating
import InviteLink.Proofs.Service.Reading

set_option autoImplicit false

/-! # When the service fails

A body that cannot be read, or does not fit, is answered with its faults, and each fault repeats
what it refuses: the whole body where that is no object or lacks a field, and otherwise one member
(`Endpoint.exists_issue_iff`). A body that fits describes a record or gives a link, and is shared,
read or refused (`Endpoint.run_cases`). The service fails where one of these answers cannot be
written, and only there: where a number that is not finite or a surrogate is repeated of the body
(`Endpoint.RepeatsFlaw`), and where the name of a record that is to be shared or told holds
surrogates (`Endpoint.NamesUnwritable`). A failure is the one thing that is logged as an error by
the service itself (`Endpoint.logs_failure_iff`). -/

namespace InviteLink

/-! ## Bodies that fit no endpoint -/

/-- No link is given under a name: there is nothing, or no text, or a text of more than `limit` code
    points. -/
def Members.LacksLink (limit : Int) (members : Members) (name : String) : Prop :=
  members.get? name = none
    ∨ (∃ v, members.get? name = some v ∧ ∀ t, v ≠ .text t)
    ∨ ∃ t, members.get? name = some (.text t) ∧ limit < t.length

theorem linkField_error_iff {limit : Int} {members : Members} {name : String} :
    (∃ i, linkField limit members name = .error i) ↔ members.LacksLink limit name := by
  unfold linkField Members.LacksLink
  cases hmember : members.get? name with
  | none => simp
  | some v =>
      cases v with
      | text t => by_cases hlong : limit < t.length <;> simp [hlong]
      | _ => simp

theorem Members.not_lacksLink_iff {limit : Int} {members : Members} {name : String} :
    ¬members.LacksLink limit name
      ↔ ∃ t, members.get? name = some (.text t) ∧ (t.length : Int) ≤ limit := by
  rw [← linkField_error_iff, exists_eq_error_iff, not_not]
  unfold linkField
  cases hmember : members.get? name with
  | none => simp
  | some v =>
      cases v with
      | text t => by_cases hlong : limit < t.length <;> simp [hlong, not_lt.1]
      | _ => simp

namespace Endpoint

/-- The faults that an endpoint finds in the value of a body. -/
def issues (s : Settings) (e : Endpoint) : Json → List Issue
  | .object members =>
    match e with
    | .createContact => Kind.contact.issues members
    | .createGroup => Kind.group.issues members
    | .parseLink => issueOf (linkField s.maxLinkLength members "link")
    | .health => []
  | v => [⟨[], .notObject, v⟩]

/-- An endpoint refuses a field of an object. -/
def Refuses (s : Settings) (e : Endpoint) (members : Members) (field : String) : Prop :=
  match e with
  | .createContact => Kind.contact.Refuses members field
  | .createGroup => Kind.group.Refuses members field
  | .parseLink => field = "link" ∧ members.LacksLink s.maxLinkLength field
  | .health => False

/-- The value of a body does not fit an endpoint: it is no object, or its members describe no record
    of the kind that the endpoint shares, or give it no link to read. -/
def Misfits (s : Settings) (e : Endpoint) : Json → Prop
  | .object members =>
    match e with
    | .createContact => Members.Misfits members .contact
    | .createGroup => Members.Misfits members .group
    | .parseLink => Members.LacksLink s.maxLinkLength members "link"
    | .health => False
  | _ => True

/-- What the faults of the value of a body repeat of it cannot be written: the value is no object,
    or an object of which a field is refused, and the input that is refused there holds a number
    that is not finite or a surrogate. Where a field is missing that input is the whole object. -/
def RepeatsFlaw (s : Settings) (e : Endpoint) : Json → Prop
  | .object members =>
    ∃ field, e.Refuses s members field ∧ (Members.inputOf members field).Flawed
  | v => v.Flawed

/-- The value of a body describes a record that may be shared, or gives a link that is read as one,
    and the name of the record holds surrogates. -/
def NamesUnwritable (s : Settings) (e : Endpoint) : Json → Prop
  | .object members =>
    match e with
    | .createContact => Kind.contact.NamesUnwritable members
    | .createGroup => Kind.group.NamesUnwritable members
    | .parseLink => ∃ t r, Members.get? members "link" = some (.text t)
      ∧ (t.length : Int) ≤ s.maxLinkLength ∧ (Record.ofLink (strip t)).outcome = .ok r
      ∧ r.displayName.isScalar = false
    | .health => False
  | _ => False

variable {s : Settings} {e : Endpoint} {v : Json}

/-- The faults of a body repeat the inputs that are refused in it. -/
theorem exists_issue_iff {P : Json → Prop} {members : Members} :
    (∃ i ∈ e.issues s (.object members), P i.input)
      ↔ ∃ field, e.Refuses s members field ∧ P (members.inputOf field) := by
  cases e with
  | createContact => exact @Kind.exists_issue_iff .contact members P
  | createGroup => exact @Kind.exists_issue_iff .group members P
  | parseLink =>
      rw [issues, exists_mem_issueOf_iff input_of_linkField, linkField_error_iff]
      simp only [Refuses, and_assoc, exists_eq_left]
  | health => simp [issues, Refuses]

theorem issues_ne_nil_iff : e.issues s v ≠ [] ↔ e.Misfits s v := by
  cases v with
  | object members =>
      cases e with
      | createContact => exact @Kind.issues_ne_nil_iff .contact members
      | createGroup => exact @Kind.issues_ne_nil_iff .group members
      | parseLink =>
          rw [issues, Misfits, ← linkField_error_iff]
          cases linkField s.maxLinkLength members "link" <;> simp [issueOf]
      | health => simp [issues, Misfits]
  | _ => simp [issues, Misfits]

theorem flawed_issues_iff : (Reply.malformed (e.issues s v)).Flawed ↔ e.RepeatsFlaw s v := by
  rw [Reply.flawed_malformed_iff]
  cases v with
  | object members => exact exists_issue_iff
  | _ => simp [issues, RepeatsFlaw]

/-- A body whose faults repeat what cannot be written does not fit. -/
theorem RepeatsFlaw.misfits (h : e.RepeatsFlaw s v) : e.Misfits s v := by
  obtain ⟨i, hi, -⟩ := Reply.flawed_malformed_iff.1 (flawed_issues_iff.2 h)
  rw [← issues_ne_nil_iff]
  exact List.ne_nil_of_mem hi

theorem RepeatsFlaw.flawed (h : e.RepeatsFlaw s v) : v.Flawed := by
  cases v with
  | object members =>
      obtain ⟨field, -, hflawed⟩ := h
      exact Members.flawed_of_flawed_inputOf hflawed
  | _ => exact h

theorem NamesUnwritable.not_misfits (h : e.NamesUnwritable s v) : ¬e.Misfits s v := by
  cases v with
  | object members =>
      cases e with
      | createContact =>
          obtain ⟨r, hr, -⟩ := h
          exact Members.exists_describes_iff.1 ⟨r, hr⟩
      | createGroup =>
          obtain ⟨r, hr, -⟩ := h
          exact Members.exists_describes_iff.1 ⟨r, hr⟩
      | parseLink =>
          obtain ⟨t, -, hlink, hlength, -⟩ := h
          exact Members.not_lacksLink_iff.2 ⟨t, hlink, hlength⟩
      | health => exact h.elim
  | _ => exact h.elim

theorem NamesUnwritable.flawed (h : e.NamesUnwritable s v) : v.Flawed := by
  cases v with
  | object members =>
      cases e with
      | createContact => exact @Kind.FailsOn.flawed .contact members (Or.inr h)
      | createGroup => exact @Kind.FailsOn.flawed .group members (Or.inr h)
      | parseLink =>
          obtain ⟨t, r, hlink, hlength, hr, hname⟩ := h
          have ht : t.isScalar = false :=
            Settings.CannotTell.isScalar_eq_false (s := s) (Or.inr ⟨hlength, r, hr, hname⟩)
          exact Members.flawed_of_get? hlink (Json.flawed_text_iff.2 ht)
      | health => exact h.elim
  | _ => exact h.elim

end Endpoint

/-! ## What is answered to a body -/

namespace Endpoint

variable {s : Settings} {e : Endpoint} {body : Bytes} {v : Json}

theorem membersOf_of_ofBytes : Json.ofBytes body = .ok v →
    membersOf body = match v with
      | .object members => .ok members
      | v => .error (.malformed [⟨[], .notObject, v⟩]) := by
  intro h
  have hbody : body ≠ [] := by
    rintro rfl
    cases h
  rw [membersOf, if_neg hbody, h]
  cases v <;> rfl

theorem issues_creator (s : Settings) (kind : Kind) (members : Members) :
    kind.creator.issues s (.object members) = kind.issues members := by
  cases kind <;> rfl

theorem misfits_creator_iff {kind : Kind} {members : Members} :
    kind.creator.Misfits s (.object members) ↔ members.Misfits kind := by
  cases kind <;> rfl

theorem namesUnwritable_creator_iff {kind : Kind} {members : Members} :
    kind.creator.NamesUnwritable s (.object members) ↔ kind.NamesUnwritable members := by
  cases kind <;> rfl

/-- A value that does not fit is answered with its faults. -/
theorem respond_of_misfits (he : e ≠ .health) (h : Json.ofBytes body = .ok v)
    (hmisfits : e.Misfits s v) : (e.respond s body).outcome = .ok (.malformed (e.issues s v)) := by
  rw [respond_eq he, membersOf_of_ofBytes h]
  cases v with
  | object members =>
      dsimp only
      obtain ⟨kind, rfl⟩ | rfl | rfl := e.creates_or_reads
      · obtain ⟨issues, hissues⟩ := Record.ofMembers_error_iff.2 (misfits_creator_iff.1 hmisfits)
        rw [run_creator, hissues, issues_creator, Record.issues_of_ofMembers hissues]
        rfl
      · obtain ⟨i, hi⟩ := linkField_error_iff.2 hmisfits
        rw [run, linkOfMembers, issues, hi]
        rfl
      · exact absurd rfl he
  | _ => rfl

/-- A value that does not fit is told its faults, unless they repeat what cannot be written. -/
theorem answer_of_misfits (he : e ≠ .health) (h : Json.ofBytes body = .ok v)
    (hmisfits : e.Misfits s v) :
    (e.RepeatsFlaw s v ∧ (e.answer s body).2 = .failed)
      ∨ ¬e.RepeatsFlaw s v ∧ (e.answer s body).2.status = 422 := by
  rw [answer_eq, respond_of_misfits he h hmisfits, Reply.ofOutcome, ← flawed_issues_iff]
  by_cases hflawed : (Reply.malformed (e.issues s v)).Flawed
  · exact Or.inl ⟨hflawed, Reply.written_of_flawed hflawed⟩
  · refine Or.inr ⟨hflawed, ?_⟩
    rw [Reply.written_of_not_flawed hflawed, Reply.status]

end Endpoint

namespace Request

variable {s : Settings} {e : Endpoint} {q : Request} {v : Json}

/-- A value that fits is shared, read or refused, unless a name in it cannot be written. -/
theorem answer_of_fits (he : e ≠ .health) (hasks : q.Asks s e) (h : Json.ofBytes q.body = .ok v)
    (hfits : ¬e.Misfits s v) :
    (e.NamesUnwritable s v ∧ (q.answer s).2 = .failed)
      ∨ ¬e.NamesUnwritable s v ∧ (q.answer s).2.status ∈ [200, 201, 400] := by
  have hbody := Endpoint.membersOf_of_ofBytes h
  cases v with
  | object members =>
      obtain ⟨kind, rfl⟩ | rfl | rfl := e.creates_or_reads
      · rw [answer_members hasks hbody, Endpoint.namesUnwritable_creator_iff]
        rw [Endpoint.misfits_creator_iff] at hfits
        by_cases hnames : kind.NamesUnwritable members
        · exact Or.inl ⟨hnames, Reply.toMembers_of_failsOn (Or.inr hnames)⟩
        · have hfails : ¬kind.FailsOn members := by
            rintro (hrepeats | hnames')
            · exact hfits hrepeats.misfits
            · exact hnames hnames'
          obtain ⟨hmisfits, -⟩ | ⟨r, -, ⟨-, cause, hreply, -⟩ | ⟨-, links, -, hreply⟩⟩ :=
            Reply.toMembers_cases hfails
          · exact absurd hmisfits hfits
          · exact Or.inr ⟨hnames, by simp [hreply, Reply.status]⟩
          · exact Or.inr ⟨hnames, by simp [hreply, Reply.status]⟩
      · obtain ⟨t, hlink, hlength⟩ := Members.not_lacksLink_iff.1 hfits
        rw [answer_link hasks (text?_eq_some_iff.2 ⟨members, hbody, hlink⟩)]
        have hnames : Endpoint.parseLink.NamesUnwritable s (.object members)
            ↔ s.CannotTell t := by
          constructor
          · rintro ⟨t', r, hlink', -, hr, hname⟩
            obtain rfl : t = t' := by simpa [hlink] using hlink'
            exact Or.inr ⟨hlength, r, hr, hname⟩
          · rintro (⟨hlong, -⟩ | ⟨-, r, hr, hname⟩)
            · omega
            · exact ⟨t, r, hlink, hlength, hr, hname⟩
        rw [hnames]
        by_cases hcannot : s.CannotTell t
        · exact Or.inl ⟨hcannot, Reply.toLink_of_cannotTell hcannot⟩
        · exact Or.inr ⟨hcannot, (Reply.tells_toLink hlength hcannot).status_mem⟩
      · exact absurd rfl he
  | _ => exact absurd trivial hfits

end Request

namespace Endpoint

variable {s : Settings} {e : Endpoint} {body : Bytes} {v : Json}

/-- A body that was not read as a value is told so, unless it exceeds a limit. -/
theorem answer_of_wrongAt {n : Nat} (he : e ≠ .health)
    (h : Json.ofBytes body = .error (.wrongAt n)) : (e.answer s body).2.status = 422 := by
  obtain ⟨i, hmembers, hinput⟩ : ∃ i : Issue,
      membersOf body = .error (.malformed [i]) ∧ ¬i.input.Flawed := by
    by_cases hbody : body = []
    · rw [membersOf, if_pos hbody]
      exact ⟨_, rfl, Json.not_flawed_null⟩
    · rw [membersOf, if_neg hbody, h]
      exact ⟨_, rfl, by simp⟩
  rw [answer_eq, respond_eq he, hmembers]
  show (Reply.written (.malformed [i])).status = 422
  rw [Reply.written_of_not_flawed (by simpa [Reply.flawed_malformed_iff] using hinput),
    Reply.status]

theorem answer_of_unreadable (he : e ≠ .health) (h : Json.ofBytes body = .error .unreadable) :
    (e.answer s body).2 = .unreadable := by
  have hbody : body ≠ [] := by
    rintro rfl
    cases h
  rw [answer_eq, respond_eq he, membersOf, if_neg hbody, h]
  exact Reply.written_of_not_flawed Reply.not_flawed_unreadable

/-- What is made of a body is never a failure; only telling it can be one. -/
theorem respond_ne_failed : (e.respond s body).outcome ≠ .ok .failed := by
  intro h
  by_cases he : e = .health
  · subst he
    cases h
  rw [respond_eq he] at h
  cases hbody : membersOf body with
  | error reply =>
      rw [hbody] at h
      cases h
      unfold membersOf at hbody
      split_ifs at hbody
      · cases hbody
      · split at hbody <;> cases hbody
  | ok members =>
      rw [hbody] at h
      dsimp only at h
      obtain ⟨kind, rfl⟩ | rfl | rfl := e.creates_or_reads
      · rw [run_creator] at h
        split at h
        · cases h
        · obtain ⟨links, -, hreply⟩ := createLinks_ok_iff.1 h
          cases hreply
      · rw [run] at h
        split at h
        · cases h
        · rw [Traced.outcome_bind, bind_eq_ok_iff] at h
          obtain ⟨r, -, hreply⟩ := h
          cases hreply
      · exact he rfl

end Endpoint

/-! ## What is logged of a failure -/

/-- An event that says that an answer was not given, for what it should have said cannot be
    written. -/
def Event.IsFailure : Event → Prop
  | .recordUnwritable _ | .replyUnwritable _ => True
  | _ => False

namespace Traced

variable {ε ε' α β : Type}

/-- No event of the computation says that an answer was not given. -/
def LogsNoFailure (x : Traced ε α) : Prop := ∀ event ∈ x.events, ¬event.IsFailure

theorem logsNoFailure_pure (a : α) : (pure a : Traced ε α).LogsNoFailure := by
  simp [LogsNoFailure]

theorem logsNoFailure_fail (e : ε) : (fail e : Traced ε α).LogsNoFailure := by
  simp [LogsNoFailure, fail]

theorem logsNoFailure_ofExcept (x : Except ε α) : (ofExcept x).LogsNoFailure := by
  simp [LogsNoFailure, ofExcept]

theorem LogsNoFailure.bind {x : Traced ε α} {f : α → Traced ε β} (hx : x.LogsNoFailure)
    (hf : ∀ a, (f a).LogsNoFailure) : (x >>= f).LogsNoFailure := by
  cases houtcome : x.outcome with
  | error e =>
      rw [LogsNoFailure, events_bind_of_error houtcome]
      exact hx
  | ok a =>
      rw [LogsNoFailure, events_bind_of_ok houtcome]
      intro event hevent
      exact (List.mem_append.1 hevent).elim (hx event) (hf a event)

theorem logsNoFailure_log_bind {event : Event} {x : Traced ε β} (h : ¬event.IsFailure)
    (hx : x.LogsNoFailure) : (log event >>= fun _ => x).LogsNoFailure := by
  have hlog : (log event : Traced ε Unit).LogsNoFailure := by simpa [LogsNoFailure, log] using h
  exact hlog.bind fun _ => hx

theorem LogsNoFailure.logFault {x : Traced ε α} {event : ε → Event} (hx : x.LogsNoFailure)
    (h : ∀ e, ¬(event e).IsFailure) : (x.logFault event).LogsNoFailure := by
  unfold Traced.logFault
  split
  · next e he =>
      intro event' hevent
      obtain hevent | hevent := List.mem_append.1 hevent
      · exact hx event' hevent
      · rw [List.mem_singleton.1 hevent]
        exact h e
  · exact hx

theorem LogsNoFailure.mapFault {x : Traced ε α} (f : ε → ε') (hx : x.LogsNoFailure) :
    (x.mapFault f).LogsNoFailure := hx

theorem Notices.logsNoFailure {size : Nat} {x : Traced Refusal α} (h : x.Notices size) :
    x.LogsNoFailure := by
  rw [LogsNoFailure, h]
  split
  · exact fun _ hevent => absurd hevent List.not_mem_nil
  · unfold Refusal.notice
    split <;> simp [Event.IsFailure]

end Traced

theorem Record.logsNoFailure_toLinks (r : Record) : r.toLinks.LogsNoFailure := by
  refine ((r.notices_requireShareable 0).logsNoFailure.mapFault _).bind fun _ => ?_
  refine (Traced.logsNoFailure_ofExcept _).bind fun _ => ?_
  refine (Traced.logsNoFailure_ofExcept _).bind fun _ => ?_
  exact Traced.logsNoFailure_log_bind (by simp [Event.IsFailure]) (Traced.logsNoFailure_pure _)

theorem Record.logsNoFailure_ofLink (link : Text) : (Record.ofLink link).LogsNoFailure := by
  rw [Record.ofLink]
  split_ifs
  · exact Traced.logsNoFailure_fail _
  · have hdecode : (LinkForm.decode (LinkForm.detect link) link).LogsNoFailure := by
      obtain ⟨data, -, hnotices⟩ | hnotices := LinkForm.notices_decode (LinkForm.detect link) link
      · exact hnotices.logsNoFailure
      · exact (hnotices 0).logsNoFailure
    refine (hdecode.logFault fun _ => by simp [Event.IsFailure]).bind fun _ => ?_
    exact Traced.logsNoFailure_log_bind (by simp [Event.IsFailure]) (Traced.logsNoFailure_pure _)

namespace Endpoint

variable {s : Settings} {e : Endpoint} {body : Bytes}

theorem logsNoFailure_run (s : Settings) (e : Endpoint) (members : Members) :
    (e.run s members).LogsNoFailure := by
  obtain ⟨kind, rfl⟩ | rfl | rfl := e.creates_or_reads
  · rw [run_creator]
    split
    · exact Traced.logsNoFailure_pure _
    · next r _ =>
        refine r.logsNoFailure_toLinks.bind fun _ => ?_
        exact Traced.logsNoFailure_log_bind (by simp [Event.IsFailure])
          (Traced.logsNoFailure_pure _)
  · rw [run]
    split
    · exact Traced.logsNoFailure_pure _
    · next link _ =>
        exact ((Record.logsNoFailure_ofLink link).mapFault _).bind fun _ =>
          Traced.logsNoFailure_pure _
  · exact Traced.logsNoFailure_pure _

theorem logsNoFailure_respond (s : Settings) (e : Endpoint) (body : Bytes) :
    (e.respond s body).LogsNoFailure := by
  by_cases he : e = .health
  · subst he
    exact Traced.logsNoFailure_pure _
  · rw [respond_eq he]
    split
    · exact Traced.logsNoFailure_pure _
    · exact logsNoFailure_run s e _

/-- That an answer was not given is logged just where the service fails. -/
theorem logs_failure_iff :
    (∃ event ∈ (e.answer s body).1, event.IsFailure) ↔ (e.answer s body).2 = .failed := by
  have hcalm : ¬∃ event ∈ (e.respond s body).events, event.IsFailure := by
    simpa [Traced.LogsNoFailure] using logsNoFailure_respond s e body
  have hadded : ∀ {events : List Event} {event : Event},
      ¬(∃ event ∈ events, event.IsFailure) →
        ((∃ event' ∈ events ++ [event], event'.IsFailure) ↔ event.IsFailure) := by
    intro events event hnone
    simp only [List.mem_append, List.mem_singleton, or_and_right, exists_or, exists_eq_left,
      or_iff_right hnone]
  rw [answer]
  cases houtcome : (e.respond s body).outcome with
  | error fault =>
      cases fault with
      | refused cause =>
          rw [hadded hcalm]
          exact iff_of_false not_false (by simp)
      | unwritable f =>
          rw [hadded hcalm]
          exact iff_of_true trivial rfl
  | ok reply =>
      cases hflaw : reply.unwritable? with
      | some flaw =>
          simp only [hflaw]
          rw [hadded hcalm]
          exact iff_of_true trivial trivial
      | none =>
          simp only [hflaw]
          refine iff_of_false hcalm ?_
          rintro rfl
          exact respond_ne_failed houtcome

end Endpoint

/-! ## Every body -/

/-- A body is read as a value that no answer can be written to. -/
def Endpoint.FailsOn (s : Settings) (e : Endpoint) (body : Bytes) : Prop :=
  ∃ v, Json.ofBytes body = .ok v ∧ (e.RepeatsFlaw s v ∨ e.NamesUnwritable s v)

theorem Reply.status_eq_iff_failed {reply : Reply} : reply.status = 500 ↔ reply = .failed := by
  cases reply <;> simp [status]

namespace Request

variable {s : Settings} {e : Endpoint} {q : Request} {v : Json}

/-- A body that was read as a value makes the service fail, or does not fit and is told so, or fits
    and is shared, read or refused. -/
theorem answer_cases_of_read (he : e ≠ .health) (hasks : q.Asks s e)
    (h : Json.ofBytes q.body = .ok v) :
    ((e.RepeatsFlaw s v ∨ e.NamesUnwritable s v) ∧ (q.answer s).2 = .failed)
      ∨ ¬(e.RepeatsFlaw s v ∨ e.NamesUnwritable s v)
        ∧ ((e.Misfits s v ∧ (q.answer s).2.status = 422)
          ∨ ¬e.Misfits s v ∧ (q.answer s).2.status ∈ [200, 201, 400]) := by
  by_cases hmisfits : e.Misfits s v
  · have hnames : ¬e.NamesUnwritable s v := fun hnames => hnames.not_misfits hmisfits
    have hanswer := Endpoint.answer_of_misfits he h hmisfits
    rw [← answer_of_asks hasks] at hanswer
    obtain ⟨hrepeats, hfailed⟩ | ⟨hrepeats, hstatus⟩ := hanswer
    · exact Or.inl ⟨Or.inl hrepeats, hfailed⟩
    · exact Or.inr ⟨not_or.2 ⟨hrepeats, hnames⟩, Or.inl ⟨hmisfits, hstatus⟩⟩
  · have hrepeats : ¬e.RepeatsFlaw s v := fun hrepeats => hmisfits hrepeats.misfits
    obtain ⟨hnames, hfailed⟩ | ⟨hnames, hstatus⟩ := answer_of_fits he hasks h hmisfits
    · exact Or.inl ⟨Or.inr hnames, hfailed⟩
    · exact Or.inr ⟨not_or.2 ⟨hrepeats, hnames⟩, Or.inr ⟨hmisfits, hstatus⟩⟩

theorem answer_of_failsOn (he : e ≠ .health) (hasks : q.Asks s e) (h : e.FailsOn s q.body) :
    (q.answer s).2 = .failed := by
  obtain ⟨v, hread, hfails⟩ := h
  obtain ⟨-, hfailed⟩ | ⟨hnot, -⟩ := answer_cases_of_read he hasks hread
  · exact hfailed
  · exact absurd hfails hnot

theorem status_of_not_failsOn (he : e ≠ .health) (hasks : q.Asks s e)
    (h : ¬e.FailsOn s q.body) : (q.answer s).2.status ∈ [200, 201, 400, 422] := by
  cases hread : Json.ofBytes q.body with
  | error f =>
      rw [answer_of_asks hasks]
      cases f with
      | unreadable =>
          rw [Endpoint.answer_of_unreadable he hread]
          simp [Reply.status]
      | wrongAt n =>
          rw [Endpoint.answer_of_wrongAt he hread]
          simp
  | ok v =>
      obtain ⟨hfails, -⟩ | ⟨-, ⟨-, hstatus⟩ | ⟨-, hstatus⟩⟩ := answer_cases_of_read he hasks hread
      · exact absurd ⟨v, hread, hfails⟩ h
      · rw [hstatus]
        simp
      · simp only [List.mem_cons, List.not_mem_nil, or_false] at hstatus ⊢
        omega

/-- The service fails on a body, or gives an answer of another status. -/
theorem status_eq_or_mem (he : e ≠ .health) (hasks : q.Asks s e) :
    (e.FailsOn s q.body ∧ (q.answer s).2.status = 500)
      ∨ ¬e.FailsOn s q.body ∧ (q.answer s).2.status ∈ [200, 201, 400, 422] := by
  by_cases h : e.FailsOn s q.body
  · exact Or.inl ⟨h, by rw [answer_of_failsOn he hasks h, Reply.status]⟩
  · exact Or.inr ⟨h, status_of_not_failsOn he hasks h⟩

end Request

/-- A request to read something that is no number, let alone a link. -/
def nonfiniteRequest : Request where
  method := "POST".points
  target := "/api/v1/links/parse".points
  body := Utf8.encode "\x7b\"link\":NaN\x7d".toList

/-- A request to read an empty link, which holds such a number where no field asks for it. -/
def besideRequest : Request where
  method := "POST".points
  target := "/api/v1/links/parse".points
  body := Utf8.encode "\x7b\"link\":\"\",\"note\":NaN\x7d".toList

end InviteLink
