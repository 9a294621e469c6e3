import InviteLink.Proofs.Codec.Base64
import InviteLink.Proofs.Link.Sharing
import InviteLink.Service.Reply

set_option autoImplicit false

/-! # Which answers can be written

A value is flawed if a number in it is not finite or a text in it holds a surrogate, and an answer
that shows a flawed value is not written (`Reply.unwritable?_eq_none_iff`). The service's own words
and octets in base 64 are never flawed, nor are links, which are visible. So there are two answers
left: a record shows its name (`Reply.flawed_parsed_iff`), and a report of issues repeats what was
refused (`Reply.flawed_malformed_iff`). -/

namespace InviteLink

/-! ## Values -/

namespace Json

/-- The value cannot be written, for some number or text in it. -/
def Flawed (v : Json) : Prop := v.flaws ≠ []

instance (v : Json) : Decidable v.Flawed := inferInstanceAs (Decidable (_ ≠ _))

@[simp] theorem not_flawed_null : ¬null.Flawed := by decide

@[simp] theorem not_flawed_boolean (b : Bool) : ¬(boolean b).Flawed := not_not_intro rfl

@[simp] theorem not_flawed_integer (n : Int) : ¬(integer n).Flawed := not_not_intro rfl

@[simp] theorem not_flawed_decimal (d : Decimal) : ¬(decimal d).Flawed := not_not_intro rfl

theorem flawsOfText_eq_nil_iff {t : Text} : flawsOfText t = [] ↔ t.isScalar = true := by
  unfold flawsOfText
  split_ifs with h <;> simp [h]

@[simp] theorem flawed_text_iff {t : Text} : (text t).Flawed ↔ t.isScalar = false := by
  rw [Flawed, flaws, ne_eq, flawsOfText_eq_nil_iff, Bool.not_eq_true]

@[simp] theorem flawed_list_iff {items : List Json} :
    (list items).Flawed ↔ ∃ v ∈ items, v.Flawed := by
  rw [Flawed, flaws]
  induction items with
  | nil => simp [flawsOfItems]
  | cons v rest ih =>
      rw [List.exists_mem_cons_iff, ← ih, flawsOfItems, Flawed]
      simp only [ne_eq, List.append_eq_nil_iff, not_and_or]

/-- The name of a member is written too. -/
@[simp] theorem flawed_object_iff {members : List (Text × Json)} :
    (object members).Flawed ↔ ∃ m ∈ members, m.1.isScalar = false ∨ m.2.Flawed := by
  rw [Flawed, flaws]
  induction members with
  | nil => simp [flawsOfMembers]
  | cons m rest ih =>
      rw [List.exists_mem_cons_iff, ← ih, flawsOfMembers, Flawed]
      simp only [ne_eq, List.append_eq_nil_iff, not_and_or, flawsOfText_eq_nil_iff,
        Bool.not_eq_true]

@[simp] theorem not_flawed_ofString (s : String) : ¬(ofString s).Flawed := by
  simp [ofString]

@[simp] theorem not_flawed_ofBytes64 (bs : Bytes) : ¬(ofBytes64 bs).Flawed := by
  rw [ofBytes64, flawed_text_iff, Bool.not_eq_false]
  exact isScalar_of_ascii Base64.toNat_lt_of_mem_encode

end Json

/-! ## Records -/

/-- Of a record all but the name can always be written. -/
theorem Record.flawed_toJson_iff {r : Record} :
    r.toJson.Flawed ↔ r.displayName.isScalar = false := by
  cases r with
  | contact c => simp [toJson, contactJson, descriptorJson, Contact.toJson, displayName]
  | group g =>
      obtain ⟨descriptor, name⟩ := g
      cases descriptor <;>
        simp [toJson, contactJson, descriptorJson, Descriptor.toJson, displayName]

/-- A link of a record can be written. -/
theorem Record.isScalar_of_hasLink {r : Record} {link : Text} (h : r.HasLink link) :
    link.isScalar = true :=
  isScalar_of_ascii fun c hc => toNat_lt_of_isVisible (isVisible_of_hasLink h c hc)

/-! ## Answers -/

namespace Reply

/-- The answer cannot be written. -/
def Flawed (reply : Reply) : Prop := reply.flaws ≠ []

instance (reply : Reply) : Decidable reply.Flawed := inferInstanceAs (Decidable (_ ≠ _))

theorem unwritable?_eq_none_iff {reply : Reply} : reply.unwritable? = none ↔ ¬reply.Flawed := by
  rw [unwritable?, Flawed, ne_eq, not_not]
  split_ifs with h
  · simp [List.ne_nil_of_mem h]
  · exact List.head?_eq_none_iff

theorem exists_unwritable?_eq_some {reply : Reply} (h : reply.Flawed) :
    ∃ flaw, reply.unwritable? = some flaw := by
  rw [← Option.ne_none_iff_exists', ne_eq, unwritable?_eq_none_iff, not_not]
  exact h

theorem flawed_malformed_iff {issues : List Issue} :
    (malformed issues).Flawed ↔ ∃ i ∈ issues, i.input.Flawed := by
  simp only [Flawed, flaws, ne_eq, List.flatMap_eq_nil_iff, not_forall, exists_prop, Json.Flawed]

theorem flawed_parsed_iff {r : Record} : (parsed r).Flawed ↔ r.displayName.isScalar = false :=
  Record.flawed_toJson_iff

theorem not_flawed_created {r : Record} {links : Links} (h : r.toLinks.outcome = .ok links)
    (kind : Kind) : ¬(created kind links).Flawed := by
  obtain ⟨hinternal, hweb⟩ := Record.hasLink_of_toLinks h
  show ¬(created kind links).body.Flawed
  simp [body, Record.isScalar_of_hasLink hinternal, Record.isScalar_of_hasLink hweb]

theorem not_flawed_unreadable : ¬unreadable.Flawed := by decide +kernel

end Reply

end InviteLink
