import InviteLink.Proofs.Service.Reply
import InviteLink.Proofs.Service.Request

set_option autoImplicit false

/-! # The faults of a body

The faults of a body are those of its fields, in the order of the fields, and a fault repeats the
member that was refused, or the whole body where a member is missing (`Members.inputOf`). So what
is repeated of a body that asks for links is known from the fields that are refused in it
(`Kind.exists_issue_iff`), and can be written if the body can
(`Members.flawed_of_flawed_inputOf`). -/

namespace InviteLink

/-! ## What a fault repeats -/

/-- The input that is refused where a field is: the member of its name, or the whole object if
    there is none. -/
def Members.inputOf (members : Members) (name : String) : Json :=
  (members.get? name).getD (.object members)

/-- A member that cannot be written keeps its object from being written. -/
theorem Members.flawed_of_get? {members : Members} {name : String} {v : Json}
    (h : members.get? name = some v) (hv : v.Flawed) : (Json.object members).Flawed := by
  obtain ⟨before, after, rfl, -⟩ := List.lookup_eq_some_iff.1 h
  exact Json.flawed_object_iff.2
    ⟨(name.points, v), List.mem_append_right before List.mem_cons_self, Or.inr hv⟩

theorem Members.flawed_of_flawed_inputOf {members : Members} {name : String}
    (h : (members.inputOf name).Flawed) : (Json.object members).Flawed := by
  cases hmember : members.get? name with
  | none =>
      rw [inputOf, hmember] at h
      exact h
  | some v =>
      rw [inputOf, hmember] at h
      exact flawed_of_get? hmember h

section Fields

variable {members : Members} {name : String} {i : Issue}

theorem input_of_bytesField (h : bytesField members name = .error i) :
    i.input = members.inputOf name := by
  unfold bytesField at h
  unfold Members.inputOf
  split at h
  · next hmember =>
      cases h
      rw [hmember, Option.getD_none]
  · next t hmember =>
      split at h
      · cases h
      · cases h
        rw [hmember, Option.getD_some]
  · next v _ hmember =>
      cases h
      rw [hmember, Option.getD_some]

theorem input_of_optionalTextField (h : optionalTextField members name = .error i) :
    i.input = members.inputOf name := by
  unfold optionalTextField at h
  unfold Members.inputOf
  split at h
  · cases h
  · cases h
  · cases h
  · next v _ _ hmember =>
      cases h
      rw [hmember, Option.getD_some]

theorem input_of_groupTypeField (h : groupTypeField members name = .error i) :
    i.input = members.inputOf name := by
  unfold groupTypeField at h
  unfold Members.inputOf
  split at h
  · cases h
  · next v hmember =>
      split at h
      · cases h
      · cases h
        rw [hmember, Option.getD_some]

theorem input_of_linkField {limit : Int} (h : linkField limit members name = .error i) :
    i.input = members.inputOf name := by
  unfold linkField at h
  unfold Members.inputOf
  split at h
  · next hmember =>
      cases h
      rw [hmember, Option.getD_none]
  · next t hmember =>
      split_ifs at h
      cases h
      rw [hmember, Option.getD_some]
  · next v _ hmember =>
      cases h
      rw [hmember, Option.getD_some]

end Fields

theorem mem_issueOf_iff {α : Type} {x : Except Issue α} {i : Issue} :
    i ∈ issueOf x ↔ x = .error i := by
  cases x <;> simp [issueOf, eq_comm]

/-- A field that repeats nothing but one input does so just when it is refused. -/
theorem exists_mem_issueOf_iff {α : Type} {x : Except Issue α} {v : Json} {P : Json → Prop}
    (hinput : ∀ {i}, x = .error i → i.input = v) :
    (∃ i ∈ issueOf x, P i.input) ↔ (∃ i, x = .error i) ∧ P v := by
  simp only [mem_issueOf_iff]
  constructor
  · rintro ⟨i, hi, hP⟩
    exact ⟨⟨i, hi⟩, hinput hi ▸ hP⟩
  · rintro ⟨⟨i, hi⟩, hP⟩
    exact ⟨i, hi, (hinput hi).symm ▸ hP⟩

/-! ## Bodies that ask for links -/

/-- The fields of a body that asks for the links of a record. -/
def Kind.fields : Kind → List String
  | .contact => ["account_public_key", "public_rendezvous_seed", "display_name"]
  | .group => ["public_key", "secret", "secret_signature", "group_type", "signing_public_key",
    "display_name"]

/-- The faults of the fields of a body, in the order of the fields. -/
def Kind.issues (members : Members) : Kind → List Issue
  | .contact =>
    issueOf (bytesField members "account_public_key")
      ++ issueOf (bytesField members "public_rendezvous_seed")
      ++ issueOf (optionalTextField members "display_name")
  | .group =>
    issueOf (bytesField members "public_key") ++ issueOf (bytesField members "secret")
      ++ issueOf (bytesField members "secret_signature")
      ++ issueOf (groupTypeField members "group_type")
      ++ issueOf (bytesField members "signing_public_key")
      ++ issueOf (optionalTextField members "display_name")

theorem Record.issues_of_ofMembers {kind : Kind} {members : Members} {issues : List Issue}
    (h : Record.ofMembers kind members = .error issues) : issues = kind.issues members := by
  cases kind with
  | contact =>
      rw [ofMembers, map_eq_error_iff, Contact.ofMembers] at h
      split at h
      · cases h
      · cases h
        rfl
  | group =>
      rw [ofMembers, map_eq_error_iff, GroupInvite.ofMembers] at h
      split at h
      · cases h
      · cases h
        rfl

/-- A field is refused: one of octets that lacks them, or the name or the group type, given as
    something else. -/
def Kind.Refuses (kind : Kind) (members : Members) (field : String) : Prop :=
  (field ∈ kind.octetFields ∧ members.LacksOctets field)
    ∨ (field = "display_name" ∧ members.MisgivesText field)
    ∨ kind = .group ∧ field = "group_type" ∧ members.MisgivesType field

/-- The members of a body misfit when one of its fields is refused. -/
theorem Kind.exists_refuses_iff {kind : Kind} {members : Members} :
    (∃ field, kind.Refuses members field) ↔ members.Misfits kind := by
  simp only [Refuses, Members.Misfits, exists_or, exists_eq_left, exists_and_left]

/-- The faults of a body repeat the inputs of the fields that are refused. -/
theorem Kind.exists_issue_iff {kind : Kind} {members : Members} {P : Json → Prop} :
    (∃ i ∈ kind.issues members, P i.input)
      ↔ ∃ field, kind.Refuses members field ∧ P (members.inputOf field) := by
  have hbytes : ∀ {name : String}, (∃ i ∈ issueOf (bytesField members name), P i.input)
      ↔ members.LacksOctets name ∧ P (members.inputOf name) := fun {name} => by
    rw [exists_mem_issueOf_iff input_of_bytesField, bytesField_error_iff]
  have htext : ∀ {name : String}, (∃ i ∈ issueOf (optionalTextField members name), P i.input)
      ↔ members.MisgivesText name ∧ P (members.inputOf name) := fun {name} => by
    rw [exists_mem_issueOf_iff input_of_optionalTextField, optionalTextField_error_iff]
  have htype : ∀ {name : String}, (∃ i ∈ issueOf (groupTypeField members name), P i.input)
      ↔ members.MisgivesType name ∧ P (members.inputOf name) := fun {name} => by
    rw [exists_mem_issueOf_iff input_of_groupTypeField, groupTypeField_error_iff]
  cases kind with
  | contact =>
      simp only [issues, List.mem_append, or_and_right, exists_or, hbytes, htext, Refuses,
        octetFields, List.mem_cons, List.not_mem_nil, or_false, and_assoc, exists_eq_left,
        reduceCtorEq, false_and]
  | group =>
      simp only [issues, List.mem_append, or_and_right, exists_or, hbytes, htext, htype, Refuses,
        octetFields, List.mem_cons, List.not_mem_nil, or_false, and_assoc, exists_eq_left,
        true_and]
      grind

/-- There are faults to tell just when the members describe no record. -/
theorem Kind.issues_ne_nil_iff {kind : Kind} {members : Members} :
    kind.issues members ≠ [] ↔ members.Misfits kind := by
  have hissue := @exists_issue_iff kind members fun _ => True
  simp only [and_true] at hissue
  rw [← exists_refuses_iff, ← hissue, ne_eq, List.eq_nil_iff_forall_not_mem]
  simp only [not_forall, not_not]

end InviteLink
