import InviteLink.Link.Sharing
import InviteLink.Proofs.Log.Traced
import InviteLink.Proofs.Text.Lowercase

set_option autoImplicit false

/-! # The grammar of links

What a link of either form looks like, said as an equation on its text: the parts in their order,
those in front up to the case of ASCII letters (`InternalForm.IsLink`, `WebForm.IsLink`). A text of
this shape is decoded by its parts (`decode_of_isLink`), and any other text is refused as invalid
(`refusedAs_of_not_isLink`). The two forms begin differently, so the form of a link is the one
whose lead it begins with (`LinkForm.detect_eq_some_iff`). -/

namespace InviteLink

/-! ## Leads -/

namespace LinkForm

/-- A text that begins with the lead of a form, up to the case of ASCII letters. -/
def Begins (f : LinkForm) (u : Text) : Prop :=
  ∃ head rest, u = head ++ rest ∧ SameUpToCase head f.lead.points

theorem isPlainAscii_lead (f : LinkForm) : IsPlainAscii f.lead.points := by
  cases f <;> decide

theorem hasLead_iff_begins {f : LinkForm} {u : Text} :
    hasLead f.lead.points u = true ↔ f.Begins u :=
  hasLead_iff_exists f.isPlainAscii_lead

theorem length_of_sameUpToCase {f : LinkForm} {head : Text}
    (h : SameUpToCase head f.lead.points) : head.length = f.lead.length := by
  rw [h.length_eq, length_points]

theorem Begins.ne_nil {f : LinkForm} {u : Text} (h : f.Begins u) : u ≠ [] := by
  obtain ⟨head, rest, rfl, hhead⟩ := h
  intro hnil
  have hlength := length_of_sameUpToCase hhead
  rw [(List.append_eq_nil_iff.1 hnil).1] at hlength
  cases f <;> exact absurd hlength (by decide)

/-- A text that begins with one lead does not begin with the other. -/
theorem Begins.not_internal_of_web {u : Text} (h : LinkForm.web.Begins u) :
    ¬LinkForm.internal.Begins u := by
  obtain ⟨head, rest, rfl, hhead⟩ := h
  -- the shorter lead is compared with the beginning of the longer one, whatever follows
  rw [← hasLead_iff_begins, hasLead_iff LinkForm.internal.isPlainAscii_lead, SameUpToCase,
    List.map_take, List.map_append, hhead, List.take_append_of_le_length (by decide)]
  decide

/-- The form of a link is the one whose lead it begins with. -/
theorem detect_eq_some_iff {f : LinkForm} {u : Text} : detect u = some f ↔ f.Begins u := by
  have hinternal := hasLead_iff_begins (f := .internal) (u := u)
  have hweb := hasLead_iff_begins (f := .web) (u := u)
  unfold detect
  cases f with
  | internal =>
      rw [← hinternal]
      split_ifs with h h' <;> simp [h]
  | web =>
      rw [← hweb]
      split_ifs with h h'
      · have hnot : ¬LinkForm.web.Begins u := fun hbegins =>
          hbegins.not_internal_of_web (hinternal.1 h)
        rw [hweb]
        simp [hnot]
      · simp [h']
      · simp [h']

end LinkForm

/-! ## The internal form -/

namespace InternalForm

/-- An internal link with its blob: the lead, the framing tag, a slash, and the blob, which may be
    any text. -/
def IsLink (u blob : Text) : Prop :=
  ∃ lead tag, SameUpToCase lead LinkForm.internal.lead.points ∧ SameUpToCase tag framing
    ∧ u = lead ++ (tag ++ .char '/' :: blob)

theorem isPlainAscii_framing : IsPlainAscii framing := by decide

/-- Behind the lead and the framing tag there is a slash and a blob, or the link breaks off. -/
theorem decode_of_framing {lead tag : Text}
    (hlead : SameUpToCase lead LinkForm.internal.lead.points) (htag : SameUpToCase tag framing)
    (rest : Option Text) :
    decode (lead ++ (tag ++ behind (.char '/') rest))
      = (rest.map decodeBlob).getD (Traced.fail .tooFewParts) := by
  have hcut : cut (.char '/') (tag ++ behind (.char '/') rest) = (tag, rest) :=
    cut_eq_iff.2 ⟨rfl, htag.not_mem (by decide) (by decide)⟩
  rw [decode, if_pos (LinkForm.hasLead_iff_begins.2 ⟨lead, _, rfl, hlead⟩),
    ← LinkForm.length_of_sameUpToCase hlead, List.drop_left, hcut]
  cases rest with
  | none => rfl
  | some blob => exact if_pos ((lower_eq_iff isPlainAscii_framing).2 htag)

theorem decode_of_isLink {u blob : Text} (h : IsLink u blob) : decode u = decodeBlob blob := by
  obtain ⟨lead, tag, hlead, htag, rfl⟩ := h
  exact decode_of_framing hlead htag (some blob)

theorem IsLink.begins {u blob : Text} (h : IsLink u blob) : LinkForm.internal.Begins u := by
  obtain ⟨lead, tag, hlead, -, rfl⟩ := h
  exact ⟨lead, _, rfl, hlead⟩

theorem IsLink.length_eq {u blob : Text} (h : IsLink u blob) : u.length = 11 + blob.length := by
  obtain ⟨lead, tag, hlead, htag, rfl⟩ := h
  have hlengths : lead.length = 8 ∧ tag.length = 2 := ⟨hlead.length_eq, htag.length_eq⟩
  rw [List.length_append, List.length_append, List.length_cons]
  omega

/-- Of a text that is no internal link nothing is decoded: it is refused for its shape, as invalid,
    and no more than a notice of that is logged. -/
theorem decode_cases (u : Text) :
    (∃ blob, IsLink u blob ∧ decode u = decodeBlob blob)
      ∨ ((decode u).RefusedAs .invalid ∧ ∀ size, (decode u).Notices size) := by
  rw [decode]
  split_ifs with hlead
  · obtain ⟨head, rest, rfl, hhead⟩ := LinkForm.hasLead_iff_begins.1 hlead
    rw [← LinkForm.length_of_sameUpToCase hhead, List.drop_left]
    split
    · exact Or.inr ⟨⟨_, rfl, rfl⟩, fun _ => Traced.notices_fail rfl⟩
    · next tag blob hcut =>
        split_ifs with htag
        · have hsame := (lower_eq_iff isPlainAscii_framing).1 htag
          exact Or.inl ⟨blob, ⟨head, tag, hhead, hsame, by rw [cut_some hcut]⟩, rfl⟩
        · exact Or.inr ⟨⟨_, rfl, rfl⟩, fun _ => Traced.notices_log_fail rfl⟩
  · exact Or.inr ⟨⟨_, rfl, rfl⟩, fun _ => Traced.notices_fail rfl⟩

/-- A text that is no internal link is refused as invalid. -/
theorem refusedAs_of_not_isLink {u : Text} (h : ∀ blob, ¬IsLink u blob) :
    (decode u).RefusedAs .invalid := by
  obtain ⟨blob, hlink, -⟩ | ⟨hrefused, -⟩ := decode_cases u
  · exact absurd hlink (h blob)
  · exact hrefused

end InternalForm

/-! ## The web form -/

theorem Kind.ofTag?_tag (k : Kind) : Kind.ofTag? k.tag.points = some k := by
  cases k <;> decide

theorem Kind.eq_tag_of_ofTag? {t : Text} {k : Kind} (h : Kind.ofTag? t = some k) :
    t = k.tag.points := by
  unfold Kind.ofTag? at h
  split_ifs at h with hcontact hgroup
  · cases h
    exact hcontact
  · cases h
    exact hgroup

namespace WebForm

/-- A web link with its parts: the lead, the tag of a kind as it is, a slash, the blob up to the
    next slash, and behind that the query text, if there is one. -/
def IsLink (u : Text) (kind : Kind) (blob : Text) (query : Option Text) : Prop :=
  ∃ lead, SameUpToCase lead LinkForm.web.lead.points ∧ .char '/' ∉ blob
    ∧ u = lead ++ (kind.tag.points ++ .char '/' :: (blob ++ behind (.char '/') query))

/-- The first number sign of a web link is the one that ends the lead. -/
theorem cut_hash {head : Text} (h : SameUpToCase head LinkForm.web.lead.points) (rest : Text) :
    (cut (.char '#') (head ++ rest)).2 = some rest := by
  have hlead : LinkForm.web.lead.points = "https://berty.tech/id".points ++ [.char '#'] := by decide
  rw [SameUpToCase, hlead, List.map_append, List.map_eq_append_iff] at h
  obtain ⟨front, sign, rfl, hfront, hsign⟩ := h
  obtain ⟨c, rfl, hc⟩ := List.map_eq_singleton_iff.1 hsign
  -- the number sign has no case, so it is the only character that can stand for it
  have hhash : c = '#' := eq_of_toLower_eq hc (by decide)
  have hcut : cut (.char '#') (front ++ [c] ++ rest) = (front, some rest) := by
    rw [cut_eq_iff, hhash, List.append_assoc]
    exact ⟨rfl, SameUpToCase.not_mem hfront (by decide) (by decide)⟩
  rw [hcut]

/-- Behind the lead stands the fragment, however the lead is written. -/
theorem decode_of_lead {lead : Text} (h : SameUpToCase lead LinkForm.web.lead.points)
    (fragment : Text) : decode (lead ++ fragment) = decodeFragment fragment := by
  rw [decode, if_pos (LinkForm.hasLead_iff_begins.2 ⟨lead, _, rfl, h⟩), cut_hash h,
    Option.getD_some]

theorem cut_tag (kind : Kind) (rest : Text) :
    cut (.char '/') (kind.tag.points ++ .char '/' :: rest) = (kind.tag.points, some rest) := by
  rw [cut_eq_iff]
  exact ⟨rfl, by cases kind <;> decide⟩

theorem decodeFragment_tag (kind : Kind) (rest : Text) :
    decodeFragment (kind.tag.points ++ .char '/' :: rest)
      = if (cut (.char '/') rest).1 = [] then Traced.fail .emptyBlob
        else decodeBlob kind (cut (.char '/') rest).1 ((cut (.char '/') rest).2.getD []) := by
  rw [decodeFragment, if_neg (by simp), cut_tag]
  simp only [Kind.ofTag?_tag]

theorem decode_of_isLink {u : Text} {kind : Kind} {blob : Text} {query : Option Text}
    (h : IsLink u kind blob query) :
    decode u = if blob = [] then Traced.fail .emptyBlob
      else decodeBlob kind blob (query.getD []) := by
  obtain ⟨lead, hlead, hblob, rfl⟩ := h
  have hcut : cut (.char '/') (blob ++ behind (.char '/') query) = (blob, query) :=
    cut_eq_iff.2 ⟨rfl, hblob⟩
  rw [decode_of_lead hlead, decodeFragment_tag, hcut]

theorem IsLink.begins {u : Text} {kind : Kind} {blob : Text} {query : Option Text}
    (h : IsLink u kind blob query) : LinkForm.web.Begins u := by
  obtain ⟨lead, hlead, -, rfl⟩ := h
  exact ⟨lead, _, rfl, hlead⟩

/-- Of a text that is no web link, or one without a blob, nothing is decoded: it is refused for its
    shape, as invalid, and no more than a notice of that is logged. -/
theorem decode_cases (u : Text) :
    (∃ kind blob query, IsLink u kind blob query ∧ blob ≠ []
        ∧ decode u = decodeBlob kind blob (query.getD []))
      ∨ ((decode u).RefusedAs .invalid ∧ ∀ size, (decode u).Notices size) := by
  rw [decode]
  split_ifs with hlead
  · obtain ⟨head, rest, rfl, hhead⟩ := LinkForm.hasLead_iff_begins.1 hlead
    rw [cut_hash hhead, Option.getD_some, decodeFragment]
    split_ifs with hempty
    · exact Or.inr ⟨⟨_, rfl, rfl⟩, fun _ => Traced.notices_fail rfl⟩
    · split
      · exact Or.inr ⟨⟨_, rfl, rfl⟩, fun _ => Traced.notices_fail rfl⟩
      · next tag rest' hcut =>
          split
          · exact Or.inr ⟨⟨_, rfl, rfl⟩, fun _ => Traced.notices_log_fail rfl⟩
          · next kind hkind =>
              dsimp only
              split_ifs with hblob
              · exact Or.inr ⟨⟨_, rfl, rfl⟩, fun _ => Traced.notices_fail rfl⟩
              · have htag := Kind.eq_tag_of_ofTag? hkind
                obtain ⟨hrest, hslash⟩ :=
                  cut_eq_iff.1 (show cut (.char '/') rest' = (_, _) from rfl)
                have htext := cut_some hcut
                rw [htag, hrest] at htext
                exact Or.inl ⟨kind, _, _, ⟨head, hhead, hslash, by rw [htext]⟩, hblob, rfl⟩
  · exact Or.inr ⟨⟨_, rfl, rfl⟩, fun _ => Traced.notices_fail rfl⟩

/-- A text that is no web link is refused as invalid. -/
theorem refusedAs_of_not_isLink {u : Text} (h : ∀ kind blob query, ¬IsLink u kind blob query) :
    (decode u).RefusedAs .invalid := by
  obtain ⟨kind, blob, query, hlink, -⟩ | ⟨hrefused, -⟩ := decode_cases u
  · exact absurd hlink (h kind blob query)
  · exact hrefused

end WebForm

/-! ## Links of either form -/

theorem Record.outcome_ofLink {u : Text} (hu : u ≠ []) :
    (Record.ofLink u).outcome = (LinkForm.decode (LinkForm.detect u) u).outcome := by
  rw [Record.ofLink, if_neg hu]
  simp only [Traced.outcome_bind, Traced.outcome_logFault]
  cases (LinkForm.decode (LinkForm.detect u) u).outcome <;> rfl

theorem InternalForm.outcome_ofLink_of_isLink {u blob : Text} (h : InternalForm.IsLink u blob) :
    (Record.ofLink u).outcome = (InternalForm.decodeBlob blob).outcome := by
  rw [Record.outcome_ofLink h.begins.ne_nil, LinkForm.detect_eq_some_iff.2 h.begins,
    LinkForm.decode, InternalForm.decode_of_isLink h]

theorem WebForm.outcome_ofLink_of_isLink {u : Text} {kind : Kind} {blob : Text}
    {query : Option Text} (h : WebForm.IsLink u kind blob query) (hblob : blob ≠ []) :
    (Record.ofLink u).outcome = (WebForm.decodeBlob kind blob (query.getD [])).outcome := by
  rw [Record.outcome_ofLink h.begins.ne_nil, LinkForm.detect_eq_some_iff.2 h.begins,
    LinkForm.decode, WebForm.decode_of_isLink h, if_neg hblob]

end InviteLink
