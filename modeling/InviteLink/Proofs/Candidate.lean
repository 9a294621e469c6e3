import InviteLink.Candidate
import InviteLink.Proofs.Link.Sharing
import Mathlib.Tactic.TFAE

set_option autoImplicit false

/-! # What decides what is shared

What is offered passes the check just when it is a record that may be shared
(`Candidate.requireShareable_ok_iff`). Every operation that shares runs the check first, so it
fails as the check does (`Candidate.shareWith_of_refused`). Behind the check one thing more can
fail: the name is written in UTF-8, which the check does not look at, so a record whose name holds
surrogates passes the check and has no link of either form. The two questions whether a candidate is
of a kind and may be shared ask the check, and take a refusal for a no. -/

namespace InviteLink

/-! ## Records -/

namespace Record

/-- A record that may be shared and whose name can be written. -/
def HasLinks (r : Record) : Prop := r.IsShareable ∧ r.displayName.isScalar = true

/-- An operation behind the check that makes something of the characters of the name gives it to the
    records that may be shared and whose name has characters. -/
theorem exists_ok_iff_hasLinks {α : Type} {r : Record} {x : Traced SharingFault α}
    {make : ScalarText → α}
    (hx : ∀ {a}, x.outcome = .ok a
      ↔ r.IsShareable ∧ ∃ name : ScalarText, r.displayName = name.map .char ∧ make name = a) :
    (∃ a, x.outcome = .ok a) ↔ r.HasLinks := by
  simp only [hx, HasLinks, ← exists_eq_map_char_iff]
  constructor
  · rintro ⟨_, hshareable, name, hname, -⟩
    exact ⟨hshareable, name, hname⟩
  · rintro ⟨hshareable, name, hname⟩
    exact ⟨_, hshareable, name, hname, rfl⟩

theorem exists_toInternalLink_iff {r : Record} :
    (∃ link, r.toInternalLink.outcome = .ok link) ↔ r.HasLinks :=
  exists_ok_iff_hasLinks toInternalLink_ok_iff

theorem exists_toWebLink_iff {r : Record} :
    (∃ link, r.toWebLink.outcome = .ok link) ↔ r.HasLinks :=
  exists_ok_iff_hasLinks toWebLink_ok_iff

/-- The links of a record that the check refuses are refused for the same cause. -/
theorem toLinks_of_refused {r : Record} {cause : Refusal}
    (h : r.requireShareable.outcome = .error cause) :
    r.toLinks.outcome = .error (.refused cause) :=
  Traced.outcome_bind_of_error (mapError_eq_error_iff.2 ⟨cause, h, rfl⟩) _

theorem exists_toLinks_iff {r : Record} :
    (∃ links, r.toLinks.outcome = .ok links) ↔ r.HasLinks :=
  exists_ok_iff_hasLinks toLinks_ok_iff

/-- Both links together are the two links one by one. -/
theorem toLinks_ok_iff_both {r : Record} {links : Links} :
    r.toLinks.outcome = .ok links
      ↔ r.toInternalLink.outcome = .ok links.internal ∧ r.toWebLink.outcome = .ok links.web := by
  rw [toLinks_ok_iff, toInternalLink_ok_iff, toWebLink_ok_iff]
  constructor
  · rintro ⟨hshareable, name, hname, rfl⟩
    exact ⟨⟨hshareable, name, hname, rfl⟩, ⟨hshareable, name, hname, rfl⟩⟩
  · rintro ⟨⟨hshareable, name, hname, hinternal⟩, ⟨-, name', hname', hweb⟩⟩
    -- a text has one sequence of characters
    obtain rfl := map_char_injective (hname.symm.trans hname')
    exact ⟨hshareable, name, hname, by rw [linksOf, hinternal, hweb]⟩

end Record

namespace Candidate

/-! ## The check -/

theorem requireShareable_ok_iff {c : Candidate} :
    c.requireShareable.outcome = .ok () ↔ ∃ r, c = .record r ∧ r.IsShareable := by
  cases c with
  | nothing => simp [requireShareable]
  | record r => simp [requireShareable, Record.requireShareable_ok_iff]
  | bare => simp [requireShareable]
  | foreign k =>
      simp only [requireShareable]
      split_ifs <;> simp

/-! ## Operations behind the check -/

/-- An operation behind the check fails on a candidate as the check does. -/
theorem shareWith_of_refused {α : Type} {op : Record → Traced SharingFault α}
    {next : Record → Unit → Traced SharingFault α}
    (hop : ∀ r, op r = r.requireShareable.mapFault SharingFault.refused >>= next r)
    {c : Candidate} {m : Misuse} (h : c.requireShareable.outcome = .error m) :
    (shareWith op c).outcome = .error m := by
  cases c with
  | nothing => exact Traced.outcome_bind_of_error h _
  | record r =>
      obtain ⟨e, he, rfl⟩ := mapError_eq_error_iff.1 h
      have hcheck : (r.requireShareable.mapFault SharingFault.refused).outcome
          = .error (.refused e) := mapError_eq_error_iff.2 ⟨e, he, rfl⟩
      rw [shareWith, hop]
      exact mapError_eq_error_iff.2 ⟨_, Traced.outcome_bind_of_error hcheck _, rfl⟩
  | bare => exact Traced.outcome_bind_of_error h _
  | foreign k => exact Traced.outcome_bind_of_error h _

/-- Only records are shared, and each as the operation on records does it. -/
theorem shareWith_ok_iff {α : Type} {op : Record → Traced SharingFault α} {c : Candidate} {a : α} :
    (shareWith op c).outcome = .ok a ↔ ∃ r, c = .record r ∧ (op r).outcome = .ok a := by
  -- what is no record does not get past the check, and behind it there is nothing to share
  have hother : ∀ c : Candidate,
      (c.requireShareable >>= fun _ => Traced.fail .noSuchPart).outcome ≠ .ok a := by
    intro c h
    rw [Traced.outcome_bind, bind_eq_ok_iff] at h
    obtain ⟨_, -, h⟩ := h
    cases h
  cases c with
  | nothing => exact iff_of_false (hother .nothing) (by simp)
  | record r => simp [shareWith]
  | bare => exact iff_of_false (hother .bare) (by simp)
  | foreign k => exact iff_of_false (hother (.foreign k)) (by simp)

/-- An operation that gives a value to the records that have links does so among candidates too. -/
theorem exists_shareWith_ok_iff {α : Type} {op : Record → Traced SharingFault α}
    (hop : ∀ {r}, (∃ a, (op r).outcome = .ok a) ↔ r.HasLinks) {c : Candidate} :
    (∃ a, (shareWith op c).outcome = .ok a) ↔ ∃ r, c = .record r ∧ r.HasLinks := by
  simp only [shareWith_ok_iff, ← hop]
  constructor
  · rintro ⟨a, r, hr, ha⟩
    exact ⟨r, hr, a, ha⟩
  · rintro ⟨r, hr, a, ha⟩
    exact ⟨a, r, hr, ha⟩

/-! ## Questions -/

/-- A candidate that passes the check is of the kind that it states. -/
theorem isShareableAs_of_ok {c : Candidate} (h : c.requireShareable.outcome = .ok ())
    (kind : Kind) :
    (c.isShareableAs kind).outcome = .ok (decide (c.kind? = some kind)) := by
  rw [isShareableAs]
  split_ifs with hkind
  · simp only [h, hkind, decide_true]
  · simp [hkind]

/-- A candidate that is refused is of no kind. -/
theorem isShareableAs_of_refused {c : Candidate} {e : Refusal}
    (h : c.requireShareable.outcome = .error (.refused e)) (kind : Kind) :
    (c.isShareableAs kind).outcome = .ok false := by
  rw [isShareableAs]
  split_ifs
  · simp only [h]
  · rfl

theorem isShareableAs_true_iff {c : Candidate} {kind : Kind} :
    (c.isShareableAs kind).outcome = .ok true
      ↔ c.requireShareable.outcome = .ok () ∧ c.kind? = some kind := by
  cases h : c.requireShareable.outcome with
  | ok => simp [isShareableAs_of_ok h]
  | error m =>
      simp only [reduceCtorEq, false_and, iff_false]
      rw [isShareableAs]
      split_ifs
      · cases m <;> simp [h]
      · simp

/-- What passes the check is of one of the two kinds, and of no other. -/
theorem isShareableAs_or_iff {c : Candidate} :
    (c.isShareableAs .contact).outcome = .ok true ∨ (c.isShareableAs .group).outcome = .ok true
      ↔ c.requireShareable.outcome = .ok () := by
  simp only [isShareableAs_true_iff, ← and_or_left, and_iff_left_iff_imp]
  intro h
  obtain ⟨r, rfl, -⟩ := requireShareable_ok_iff.1 h
  cases r with
  | contact => exact Or.inl rfl
  | group => exact Or.inr rfl

theorem not_isShareableAs_both (c : Candidate) :
    ¬((c.isShareableAs .contact).outcome = .ok true
      ∧ (c.isShareableAs .group).outcome = .ok true) := by
  intro h
  have hcontact := (isShareableAs_true_iff.1 h.1).2
  have hgroup := (isShareableAs_true_iff.1 h.2).2
  rw [hcontact] at hgroup
  cases hgroup

/-! ## Records and nothing -/

/-- A record as it is offered, or nothing. -/
def ofOption : Option Record → Candidate
  | none => .nothing
  | some r => .record r

theorem ofOption_eq_record_iff {o : Option Record} {r : Record} :
    ofOption o = .record r ↔ o = some r := by
  cases o <;> simp [ofOption]

/-- All that is done with a candidate refuses it for one cause: each operation with this cause, and
    each question with a no. -/
structure IsRefused (c : Candidate) (e : Refusal) : Prop where
  check : c.requireShareable.outcome = .error (.refused e)
  toLinks : c.toLinks.outcome = .error (.refused e)
  toInternalLink : c.toInternalLink.outcome = .error (.refused e)
  toWebLink : c.toWebLink.outcome = .error (.refused e)
  isShareableAs : ∀ kind, (c.isShareableAs kind).outcome = .ok false

theorem isRefused_iff {c : Candidate} {e : Refusal} :
    c.IsRefused e ↔ c.requireShareable.outcome = .error (.refused e) := by
  refine ⟨IsRefused.check, ?_⟩
  intro h
  exact {
    check := h
    toLinks := shareWith_of_refused (fun _ => rfl) h
    toInternalLink := shareWith_of_refused (fun _ => rfl) h
    toWebLink := shareWith_of_refused (fun _ => rfl) h
    isShareableAs := isShareableAs_of_refused h }

/-- A record or nothing passes the check, or is refused for some cause. -/
theorem ok_or_isRefused (o : Option Record) :
    (ofOption o).requireShareable.outcome = .ok () ∨ ∃ e, (ofOption o).IsRefused e := by
  simp only [isRefused_iff]
  cases o with
  | none => exact Or.inr ⟨.noLink, rfl⟩
  | some r =>
      cases h : r.requireShareable.outcome with
      | ok => exact Or.inl (mapError_eq_ok_iff.2 h)
      | error e => exact Or.inr ⟨e, mapError_eq_error_iff.2 ⟨e, h, rfl⟩⟩

/-- A record that may be shared but whose name holds surrogates is shared by no operation: each
    fails for the first of them. -/
structure IsUnwritable (c : Candidate) (f : SurrogateFault) : Prop where
  toLinks : c.toLinks.outcome = .error (.unwritable f)
  toInternalLink : c.toInternalLink.outcome = .error (.unwritable f)
  toWebLink : c.toWebLink.outcome = .error (.unwritable f)

theorem outcome_of_scalars_error {α : Type} {x : Traced SharingFault α} {make : ScalarText → α}
    {t : Text} {f : SurrogateFault} (hx : x.outcome = (t.scalars.map make).mapError .unwritable)
    (ht : t.scalars = .error f) :
    (x.mapFault SharingFault.toMisuse).outcome = .error (.unwritable f) := by
  rw [Traced.outcome_mapFault, hx, ht]
  rfl

theorem isUnwritable_record {r : Record} {f : SurrogateFault} (h : r.IsShareable)
    (hname : r.displayName.scalars = .error f) : IsUnwritable (.record r) f where
  toLinks := outcome_of_scalars_error (r.toLinks_of_isShareable h) hname
  toInternalLink := outcome_of_scalars_error (r.toInternalLink_of_isShareable h) hname
  toWebLink := outcome_of_scalars_error (r.toWebLink_of_isShareable h) hname

/-- One check decides whether what is offered may be shared, and one of the two questions is then
    answered with a yes; where it does not pass, everything is refused for one cause. What passes
    it is shared by every operation, both links together being the links one by one, just when its
    name can be written; and where the name cannot be written, every operation fails for that. -/
theorem check_and_name_decide_sharing (o : Option Record) :
    [(ofOption o).requireShareable.outcome = .ok (),
      ((ofOption o).isShareableAs .contact).outcome = .ok true
        ∨ ((ofOption o).isShareableAs .group).outcome = .ok true,
      ∃ r, o = some r ∧ r.IsShareable].TFAE
      ∧ [∃ links, (ofOption o).toLinks.outcome = .ok links,
        ∃ link, (ofOption o).toWebLink.outcome = .ok link,
        ∃ link, (ofOption o).toInternalLink.outcome = .ok link,
        ∃ r, o = some r ∧ r.IsShareable ∧ r.displayName.isScalar = true].TFAE
      ∧ ¬(((ofOption o).isShareableAs .contact).outcome = .ok true
        ∧ ((ofOption o).isShareableAs .group).outcome = .ok true)
      ∧ (∀ links, (ofOption o).toLinks.outcome = .ok links
        ↔ (ofOption o).toInternalLink.outcome = .ok links.internal
          ∧ (ofOption o).toWebLink.outcome = .ok links.web)
      ∧ ((ofOption o).requireShareable.outcome = .ok () ∨ ∃ e, (ofOption o).IsRefused e)
      ∧ ∀ r, o = some r → r.IsShareable → r.displayName.isScalar = false →
        ∃ f, r.displayName.scalars = .error f ∧ (ofOption o).IsUnwritable f := by
  refine ⟨?_, ?_, not_isShareableAs_both _, ?_, ok_or_isRefused o, ?_⟩
  · tfae_have 2 ↔ 1 := isShareableAs_or_iff
    tfae_have 1 ↔ 3 := by
      rw [requireShareable_ok_iff]
      simp only [ofOption_eq_record_iff]
    tfae_finish
  · have hshared : (∃ r, ofOption o = .record r ∧ r.HasLinks)
        ↔ ∃ r, o = some r ∧ r.IsShareable ∧ r.displayName.isScalar = true := by
      simp only [ofOption_eq_record_iff]
      rfl
    tfae_have 1 ↔ 4 := (exists_shareWith_ok_iff Record.exists_toLinks_iff).trans hshared
    tfae_have 2 ↔ 4 := (exists_shareWith_ok_iff Record.exists_toWebLink_iff).trans hshared
    tfae_have 3 ↔ 4 := (exists_shareWith_ok_iff Record.exists_toInternalLink_iff).trans hshared
    tfae_finish
  · intro links
    simp only [toLinks, toInternalLink, toWebLink, shareWith_ok_iff, Record.toLinks_ok_iff_both]
    cases o with
    | none => simp [ofOption]
    | some r => simp [ofOption]
  · rintro r rfl hshareable hname
    obtain ⟨f, hf⟩ := exists_scalars_eq_error_iff.2 hname
    exact ⟨f, hf, isUnwritable_record hshareable hf⟩

/-- A contact that passes the check and is shared by no operation. -/
theorem surrogate_name_not_shared :
    (record (.contact ⟨[1], [2], [.surrogate 0]⟩)).requireShareable.outcome = .ok ()
      ∧ ((record (.contact ⟨[1], [2], [.surrogate 0]⟩)).isShareableAs .contact).outcome = .ok true
      ∧ (record (.contact ⟨[1], [2], [.surrogate 0]⟩)).IsUnwritable ⟨0, 0, 1⟩ :=
  ⟨rfl, rfl, isUnwritable_record ⟨by decide, by decide⟩ rfl⟩

end Candidate

end InviteLink
