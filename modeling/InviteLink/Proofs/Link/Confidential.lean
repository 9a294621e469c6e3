import InviteLink.Proofs.Candidate
import InviteLink.Proofs.Link.Logged

set_option autoImplicit false

/-! # What is logged of a link that is made or read

Making the links of a record logs what its check logs, and both links together one line more, with
the kind and the two lengths, if there are links (`Record.lines_toLinks`). The check logs the notice
of the cause for which it refuses, and nothing of a record that passes
(`Record.notices_requireShareable`). A link that is read leaves one line with the kind of the record
(`Record.lines_ofLink_of_ok`). So of keys, secrets and names the lines show what a caller who sees
the refusal, or how long the links are, knows without them. -/

namespace InviteLink

/-- Stages that log notices alone log the same when they are refused in the same words, or give
    values both. -/
theorem Traced.Notices.lines_eq {α : Type} {x y : Traced Refusal α} {size : Nat}
    (hx : x.Notices size) (hy : y.Notices size)
    (h : x.outcome.mapError Refusal.message = y.outcome.mapError Refusal.message) :
    x.lines = y.lines := by
  rw [Notices] at hx hy
  cases houtcome : y.outcome with
  | ok a =>
      rw [houtcome] at hy h
      rw [mapError_eq_ok_iff.1 h] at hx
      rw [lines, lines, hx, hy]
  | error e =>
      rw [houtcome] at hy h
      obtain ⟨e', houtcome', hmessage⟩ := mapError_eq_error_iff.1 h
      rw [houtcome'] at hx
      rw [lines, lines, hx, hy]
      exact Refusal.notice_lines_of_message_eq hmessage

/-- The lengths of two links. -/
def Links.lengths (links : Links) : Nat × Nat := (links.internal.length, links.web.length)

namespace Record

variable {r r' : Record}

/-! ## Making links -/

/-- Checks that end alike are logged alike. -/
theorem lines_requireShareable_eq
    (h : r.requireShareable.outcome.mapError Refusal.message
      = r'.requireShareable.outcome.mapError Refusal.message) :
    r.requireShareable.lines = r'.requireShareable.lines :=
  (r.notices_requireShareable 0).lines_eq (r'.notices_requireShareable 0) h

/-- What follows the check is logged behind it, if it passes. -/
theorem lines_requireShareable_bind {α : Type} (r : Record) (f : Unit → Traced SharingFault α) :
    (r.requireShareable.mapFault SharingFault.refused >>= f).lines
      = r.requireShareable.lines
        ++ if r.requireShareable.outcome = .ok () then (f ()).lines else [] := by
  cases h : r.requireShareable.outcome with
  | ok u =>
      have hcheck : (r.requireShareable.mapFault SharingFault.refused).outcome = .ok () :=
        mapError_eq_ok_iff.2 h
      rw [if_pos rfl, Traced.lines, Traced.events_bind_of_ok hcheck, List.map_append]
      rfl
  | error e =>
      have hcheck : (r.requireShareable.mapFault SharingFault.refused).outcome
          = .error (.refused e) := mapError_eq_error_iff.2 ⟨e, h, rfl⟩
      rw [if_neg (by simp), Traced.lines, Traced.events_bind_of_error hcheck, List.append_nil]
      rfl

theorem lines_toInternalLink (r : Record) : r.toInternalLink.lines = r.requireShareable.lines := by
  rw [toInternalLink, lines_requireShareable_bind]
  split_ifs <;> exact List.append_nil _

theorem lines_toWebLink (r : Record) : r.toWebLink.lines = r.requireShareable.lines := by
  rw [toWebLink, lines_requireShareable_bind]
  split_ifs <;> exact List.append_nil _

/-- Both links together are logged by their kind and their lengths, behind what the check logs. -/
theorem lines_toLinks (r : Record) :
    r.toLinks.lines = r.requireShareable.lines
      ++ ((r.toLinks.outcome.toOption.map Links.lengths).map fun lengths =>
        (Event.linksMade r.kind lengths.1 lengths.2).line).toList := by
  rw [toLinks, lines_requireShareable_bind, Traced.outcome_bind, Traced.outcome_mapFault]
  cases r.requireShareable.outcome with
  | error e => rfl
  | ok u =>
      rw [if_pos rfl]
      cases ofEncoder (InternalForm.encode? r) with
      | error fault => rfl
      | ok internal =>
          cases ofEncoder (WebForm.encode? r) with
          | error fault => rfl
          | ok web => rfl

/-- Records of a kind whose checks end alike, and which both have links, equally long, or have none,
    are shared with the same lines. -/
theorem lines_toLinks_eq (hkind : r.kind = r'.kind)
    (hcheck : r.requireShareable.outcome.mapError Refusal.message
      = r'.requireShareable.outcome.mapError Refusal.message)
    (hlengths : r.toLinks.outcome.toOption.map Links.lengths
      = r'.toLinks.outcome.toOption.map Links.lengths) :
    r.toLinks.lines = r'.toLinks.lines := by
  rw [lines_toLinks, lines_toLinks, lines_requireShareable_eq hcheck, hlengths, hkind]

/-! ## Reading links -/

/-- A link that is read is logged by the kind of its record alone. -/
theorem lines_ofLink_of_ok {u : Text} (h : (ofLink u).outcome = .ok r) :
    (ofLink u).lines = [(Event.linkRead r.kind).line] := by
  have hu : u ≠ [] := by
    rintro rfl
    cases h
  rw [outcome_ofLink hu] at h
  obtain ⟨size, hevents⟩ : ∃ size, (LinkForm.decode (LinkForm.detect u) u).Notices size := by
    obtain ⟨data, -, hnotices⟩ | hnotices := LinkForm.notices_decode (LinkForm.detect u) u
    · exact ⟨data.length, hnotices⟩
    · exact ⟨0, hnotices 0⟩
  rw [Traced.Notices, h] at hevents
  rw [Traced.lines, ofLink, if_neg hu]
  dsimp only
  rw [Traced.logFault_of_ok h, Traced.events_bind_of_ok h, hevents]
  rfl

end Record

/-! ## Records and nothing -/

theorem Candidate.toOption_toLinks (r : Record) :
    (ofOption (some r)).toLinks.outcome.toOption = r.toLinks.outcome.toOption := by
  show (r.toLinks.outcome.mapError SharingFault.toMisuse).toOption = _
  cases r.toLinks.outcome with
  | ok links => rfl
  | error fault => rfl

/-- A record is refused as a candidate in the words in which it is refused. -/
theorem Candidate.message_requireShareable (r : Record) :
    (ofOption (some r)).requireShareable.outcome.mapError Misuse.message
      = r.requireShareable.outcome.mapError Refusal.message := by
  rw [ofOption, requireShareable, Traced.outcome_mapFault]
  cases r.requireShareable.outcome with
  | ok u => rfl
  | error e => rfl

/-! ## What the lines show -/

/-- Keys, secrets and names do not shape the lines of links that are made or read. Records of a
    kind, or nothing twice, whose checks end in the same words are given either link with the same
    lines, and both links together if these are equally long, or if neither record has any; and
    texts that are read as records of a kind leave the same lines. -/
theorem lines_free_of_keys :
    (∀ o o' : Option Record, o.map Record.kind = o'.map Record.kind →
      (Candidate.ofOption o).requireShareable.outcome.mapError Misuse.message
        = (Candidate.ofOption o').requireShareable.outcome.mapError Misuse.message →
      ((Candidate.ofOption o).toLinks.outcome.toOption.map Links.lengths
          = (Candidate.ofOption o').toLinks.outcome.toOption.map Links.lengths →
        (Candidate.ofOption o).toLinks.lines = (Candidate.ofOption o').toLinks.lines)
      ∧ (Candidate.ofOption o).toWebLink.lines = (Candidate.ofOption o').toWebLink.lines
      ∧ (Candidate.ofOption o).toInternalLink.lines = (Candidate.ofOption o').toInternalLink.lines)
    ∧ ∀ u v r r', (Record.ofLink u).outcome = .ok r → (Record.ofLink v).outcome = .ok r' →
      r.kind = r'.kind → (Record.ofLink u).lines = (Record.ofLink v).lines := by
  constructor
  · intro o o' hkind hcheck
    cases o with
    | none =>
        cases o' with
        | none => exact ⟨fun _ => rfl, rfl, rfl⟩
        | some r' => cases hkind
    | some r =>
        cases o' with
        | none => cases hkind
        | some r' =>
            rw [Candidate.message_requireShareable, Candidate.message_requireShareable] at hcheck
            refine ⟨?_, ?_, ?_⟩
            · intro hlengths
              rw [Candidate.toOption_toLinks, Candidate.toOption_toLinks] at hlengths
              exact Record.lines_toLinks_eq (Option.some.inj hkind) hcheck hlengths
            · have hlines := Record.lines_requireShareable_eq hcheck
              rwa [← Record.lines_toWebLink, ← Record.lines_toWebLink] at hlines
            · have hlines := Record.lines_requireShareable_eq hcheck
              rwa [← Record.lines_toInternalLink, ← Record.lines_toInternalLink] at hlines
  · intro u v r r' hu hv hkind
    rw [Record.lines_ofLink_of_ok hu, Record.lines_ofLink_of_ok hv, hkind]

/-- Two contacts with other keys and other names of one length; two groups with other secrets, which
    are refused for their type; and the internal links of the contacts. -/
theorem lines_free_of_keys_contacts :
    (Record.contact ⟨[1, 2], [3], "Ann".points⟩).toLinks.lines
        = (Record.contact ⟨[5, 6], [7], "Bob".points⟩).toLinks.lines
      ∧ (Record.group ⟨some ⟨[1], [2], [3], .account, [4]⟩, []⟩).toWebLink.lines
        = (Record.group ⟨some ⟨[5], [6, 7], [8], .account, [9]⟩, "x".points⟩).toWebLink.lines
      ∧ (Record.ofLink "BERTY://PB/U2NX8E.15YGI6*FR1JW:R9M".points).lines
        = (Record.ofLink "BERTY://PB/U2NX8E.15.DGQ5VLS/GLL5I".points).lines := by
  have hlinks : (Record.contact ⟨[1, 2], [3], "Ann".points⟩).toLinks.outcome
      = .ok ⟨"BERTY://PB/U2NX8E.15YGI6*FR1JW:R9M".points,
        "https://berty.tech/id#contact/EJvfHYG3woJ1/name=Ann".points⟩ := by decide +kernel
  have hlinks' : (Record.contact ⟨[5, 6], [7], "Bob".points⟩).toLinks.outcome
      = .ok ⟨"BERTY://PB/U2NX8E.15.DGQ5VLS/GLL5I".points,
        "https://berty.tech/id#contact/EJvfHYiE58Aq/name=Bob".points⟩ := by decide +kernel
  obtain ⟨hmaking, hreading⟩ := lines_free_of_keys
  obtain ⟨hboth, -⟩ := hmaking (some (.contact ⟨[1, 2], [3], "Ann".points⟩))
    (some (.contact ⟨[5, 6], [7], "Bob".points⟩)) rfl rfl
  obtain ⟨-, hweb, -⟩ := hmaking (some (.group ⟨some ⟨[1], [2], [3], .account, [4]⟩, []⟩))
    (some (.group ⟨some ⟨[5], [6, 7], [8], .account, [9]⟩, "x".points⟩)) rfl rfl
  refine ⟨hboth ?_, hweb, ?_⟩
  · rw [Candidate.toOption_toLinks, Candidate.toOption_toLinks, hlinks, hlinks']
    decide +kernel
  · exact hreading _ _ _ _ (Record.ofLink_of_hasLink (Record.hasLink_of_toLinks hlinks).1)
      (Record.ofLink_of_hasLink (Record.hasLink_of_toLinks hlinks').1) rfl

end InviteLink
