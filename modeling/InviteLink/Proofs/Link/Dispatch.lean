import InviteLink.Proofs.Link.Grammar

set_option autoImplicit false

/-! # The form of a link is found by its lead alone

A text begins with at most one lead, so the forms may be tried in any order
(`LinkForm.detectIn_eq_detect`). A reader drops as many code points as the lead has, and what
stands for the lead has that many too, so the case of the lead shifts nothing and reaches nothing
behind it: links that differ only in the case of their leads, or of the framing tag of the internal
form, are read as the same record or refused for the same cause, and leave the same events. -/

namespace InviteLink

/-! ## The order of the forms -/

namespace LinkForm

/-- The first form in an order whose lead a text begins with. -/
def detectIn (order : List LinkForm) (u : Text) : Option LinkForm :=
  order.find? fun f => hasLead f.lead.points u

/-- A text begins with the lead of one form at most. -/
theorem Begins.unique {f f' : LinkForm} {u : Text} (h : f.Begins u) (h' : f'.Begins u) :
    f = f' := by
  rw [← detect_eq_some_iff] at h h'
  exact Option.some.inj (h.symm.trans h')

theorem begins_of_detectIn {order : List LinkForm} {f : LinkForm} {u : Text}
    (h : detectIn order u = some f) : f.Begins u := by
  rw [detectIn] at h
  have hlead := List.find?_some h
  exact hasLead_iff_begins.1 hlead

theorem detectIn_eq_some_iff {order : List LinkForm} (horder : ∀ f, f ∈ order) {f : LinkForm}
    {u : Text} : detectIn order u = some f ↔ f.Begins u := by
  refine ⟨begins_of_detectIn, ?_⟩
  intro h
  have hsome : (detectIn order u).isSome = true :=
    List.find?_isSome.2 ⟨f, horder f, hasLead_iff_begins.2 h⟩
  obtain ⟨f', hf'⟩ := Option.isSome_iff_exists.1 hsome
  rw [hf', h.unique (begins_of_detectIn hf')]

/-- In whatever order all forms are tried, the same one is found. -/
theorem detectIn_eq_detect {order : List LinkForm} (horder : ∀ f, f ∈ order) (u : Text) :
    detectIn order u = detect u := by
  apply Option.ext
  intro f
  rw [detectIn_eq_some_iff horder, detect_eq_some_iff]

end LinkForm

/-- The record of a link whose form is found by trying the forms in an order. -/
def Record.ofLinkIn (order : List LinkForm) (link : Text) : Traced Refusal Record :=
  if link = [] then Traced.fail .noLink
  else do
    let form := LinkForm.detectIn order link
    let record ← (LinkForm.decode form link).logFault (.linkRefused form link.length)
    Traced.log (.linkRead record.kind)
    return record

theorem Record.ofLinkIn_eq_ofLink {order : List LinkForm} (horder : ∀ f, f ∈ order)
    (link : Text) : Record.ofLinkIn order link = Record.ofLink link := by
  rw [Record.ofLinkIn, Record.ofLink, LinkForm.detectIn_eq_detect horder]

/-! ## The case of what stands in front -/

/-- Behind the lead a link is read from the same place, however the lead is written. -/
theorem InternalForm.decode_congr_lead {lead lead' : Text}
    (hlead : SameUpToCase lead LinkForm.internal.lead.points)
    (hlead' : SameUpToCase lead' LinkForm.internal.lead.points) (rest : Text) :
    InternalForm.decode (lead ++ rest) = InternalForm.decode (lead' ++ rest) := by
  rw [decode, if_pos (LinkForm.hasLead_iff_begins.2 ⟨lead, rest, rfl, hlead⟩),
    ← LinkForm.length_of_sameUpToCase hlead, List.drop_left,
    decode, if_pos (LinkForm.hasLead_iff_begins.2 ⟨lead', rest, rfl, hlead'⟩),
    ← LinkForm.length_of_sameUpToCase hlead', List.drop_left]

/-- Links of one form and one length that are decoded alike are read alike. -/
theorem Record.ofLink_congr {u v : Text} {f : LinkForm} (hu : f.Begins u) (hv : f.Begins v)
    (hlength : u.length = v.length)
    (hdecode : LinkForm.decode (some f) u = LinkForm.decode (some f) v) :
    Record.ofLink u = Record.ofLink v := by
  rw [Record.ofLink, Record.ofLink, if_neg hu.ne_nil, if_neg hv.ne_nil,
    LinkForm.detect_eq_some_iff.2 hu, LinkForm.detect_eq_some_iff.2 hv, hlength]
  dsimp only
  rw [hdecode]

/-- Links of one form whose leads alone may differ, and in the internal form their framing tags
    too, and these by the case of ASCII letters only. -/
inductive DifferInCase : Text → Text → Prop
  | lead {f : LinkForm} {lead lead' : Text} (hlead : SameUpToCase lead f.lead.points)
      (hlead' : SameUpToCase lead' f.lead.points) (rest : Text) :
      DifferInCase (lead ++ rest) (lead' ++ rest)
  | framing {lead lead' tag tag' : Text}
      (hlead : SameUpToCase lead LinkForm.internal.lead.points)
      (hlead' : SameUpToCase lead' LinkForm.internal.lead.points)
      (htag : SameUpToCase tag InternalForm.framing)
      (htag' : SameUpToCase tag' InternalForm.framing) (rest : Option Text) :
      DifferInCase (lead ++ (tag ++ behind (.char '/') rest))
        (lead' ++ (tag' ++ behind (.char '/') rest))

theorem DifferInCase.sameUpToCase {u v : Text} (h : DifferInCase u v) : SameUpToCase u v := by
  cases h with
  | lead hlead hlead' rest =>
      rw [SameUpToCase] at hlead hlead' ⊢
      rw [List.map_append, List.map_append, hlead, hlead']
  | framing hlead hlead' htag htag' rest =>
      rw [SameUpToCase] at hlead hlead' htag htag' ⊢
      rw [List.map_append, List.map_append, List.map_append, List.map_append, hlead, hlead', htag,
        htag']

/-- Links that differ in case only are read alike, down to the events on the way. -/
theorem DifferInCase.ofLink_eq {u v : Text} (h : DifferInCase u v) :
    Record.ofLink u = Record.ofLink v := by
  -- the length of a refused link is logged, and no character takes more room in another case
  have hlength := h.sameUpToCase.length_eq
  cases h with
  | @lead f lead lead' hlead hlead' rest =>
      refine Record.ofLink_congr ⟨lead, rest, rfl, hlead⟩ ⟨lead', rest, rfl, hlead'⟩ hlength ?_
      cases f with
      | internal => exact InternalForm.decode_congr_lead hlead hlead' rest
      | web =>
          rw [LinkForm.decode, LinkForm.decode, WebForm.decode_of_lead hlead,
            WebForm.decode_of_lead hlead']
  | @framing lead lead' tag tag' hlead hlead' htag htag' rest =>
      refine Record.ofLink_congr ⟨lead, _, rfl, hlead⟩ ⟨lead', _, rfl, hlead'⟩ hlength ?_
      rw [LinkForm.decode, LinkForm.decode, InternalForm.decode_of_framing hlead htag,
        InternalForm.decode_of_framing hlead' htag']

/-- A text begins with a lead just when its first code points are the lead up to the case of ASCII
    letters. So it begins with one of the two at most, the order in which they are tried is of no
    account, and neither is the case in which they and the framing tag are written. -/
theorem dispatch_by_lead :
    (∀ (f : LinkForm) (t : Text), hasLead f.lead.points t = true
        ↔ SameUpToCase (t.take f.lead.length) f.lead.points)
      ∧ (∀ t : Text, ¬(hasLead LinkForm.internal.lead.points t = true
        ∧ hasLead LinkForm.web.lead.points t = true))
      ∧ (∀ t : Text, Record.ofLinkIn [.internal, .web] t = Record.ofLink t
        ∧ Record.ofLinkIn [.web, .internal] t = Record.ofLink t)
      ∧ ∀ u v : Text, DifferInCase u v → Record.ofLink u = Record.ofLink v := by
  refine ⟨?_, ?_, ?_, fun u v => DifferInCase.ofLink_eq⟩
  · intro f t
    rw [hasLead_iff f.isPlainAscii_lead, length_points]
  · intro t h
    have hinternal := LinkForm.hasLead_iff_begins.1 h.1
    have hweb := LinkForm.hasLead_iff_begins.1 h.2
    exact hweb.not_internal_of_web hinternal
  · intro t
    refine ⟨Record.ofLinkIn_eq_ofLink ?_ t, Record.ofLinkIn_eq_ofLink ?_ t⟩
    · intro f
      cases f <;> simp
    · intro f
      cases f <;> simp

theorem dispatch_by_lead_framing :
    DifferInCase "BERTY://PB/$A/".points "bErTy://pb/$A/".points
      ∧ Record.ofLink "BERTY://PB/$A/".points = Record.ofLink "bErTy://pb/$A/".points := by
  have h : DifferInCase "BERTY://PB/$A/".points "bErTy://pb/$A/".points :=
    @DifferInCase.framing "BERTY://".points "bErTy://".points "PB".points "pb".points
      (by decide) (by decide) (by decide) (by decide) (some "$A/".points)
  exact ⟨h, dispatch_by_lead.2.2.2 _ _ h⟩

end InviteLink
