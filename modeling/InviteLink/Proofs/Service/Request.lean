import InviteLink.Proofs.Outcome
import InviteLink.Service.Request
import Mathlib.Tactic.SplitIfs

set_option autoImplicit false

/-! # Bodies that fit

What the fields of a body hold when none of them has a fault: octets are given as a base-64 text
(`bytesField_ok_iff`), a name as a text or not at all (`optionalTextField_ok_iff`), a group type in
one of its spellings or not at all (`groupTypeField_ok_iff`). A record is made of its fields, each
from the member of its name (`Record.ofMembers_ok_iff`), so a body is refused just when one of its
fields is (`Record.ofMembers_error_iff`). -/

namespace InviteLink

variable {members : Members}

/-! ## Fields -/

/-- The text under a name, if there is one. -/
def Members.text? (members : Members) (name : String) : Option Text :=
  match members.get? name with
  | some (.text t) => some t
  | _ => none

theorem Members.text?_eq_some_iff {name : String} {t : Text} :
    members.text? name = some t ↔ members.get? name = some (.text t) := by
  unfold text?
  cases members.get? name with
  | none => simp
  | some v => cases v <;> simp

/-- Octets given under a name, as a base-64 text. -/
def Members.GivesOctets (members : Members) (name : String) (bs : Bytes) : Prop :=
  ∃ t, members.get? name = some (.text t) ∧ Base64.decode t = .ok bs

theorem bytesField_ok_iff {name : String} {bs : Bytes} :
    bytesField members name = .ok bs ↔ members.GivesOctets name bs := by
  unfold bytesField Members.GivesOctets
  cases hmember : members.get? name with
  | none => simp
  | some v =>
      cases v with
      | text t => cases hdecode : Base64.decode t <;> simp [hdecode]
      | _ => simp

/-- No octets are given under a name: there is nothing, or no text, or a text that is no base 64. -/
def Members.LacksOctets (members : Members) (name : String) : Prop :=
  members.get? name = none
    ∨ (∃ v, members.get? name = some v ∧ ∀ t, v ≠ .text t)
    ∨ ∃ t f, members.get? name = some (.text t) ∧ Base64.decode t = .error f

theorem bytesField_error_iff {name : String} :
    (∃ i, bytesField members name = .error i) ↔ members.LacksOctets name := by
  unfold bytesField Members.LacksOctets
  cases hmember : members.get? name with
  | none => simp
  | some v =>
      cases v with
      | text t => cases hdecode : Base64.decode t <;> simp [hdecode]
      | _ => simp

/-- A text given under a name; the empty text where none is given, or null. -/
def Members.GivesText (members : Members) (name : String) (t : Text) : Prop :=
  members.get? name = some (.text t)
    ∨ (members.get? name = none ∨ members.get? name = some .null) ∧ t = []

theorem optionalTextField_ok_iff {name : String} {t : Text} :
    optionalTextField members name = .ok t ↔ members.GivesText name t := by
  unfold optionalTextField Members.GivesText
  cases hmember : members.get? name with
  | none => simp [eq_comm]
  | some v => cases v <;> simp [eq_comm]

/-- Something given under a name that is neither a text nor null. -/
def Members.MisgivesText (members : Members) (name : String) : Prop :=
  ∃ v, members.get? name = some v ∧ v ≠ .null ∧ ∀ t, v ≠ .text t

theorem optionalTextField_error_iff {name : String} :
    (∃ i, optionalTextField members name = .error i) ↔ members.MisgivesText name := by
  unfold optionalTextField Members.MisgivesText
  cases hmember : members.get? name with
  | none => simp
  | some v => cases v <;> simp

/-! ## Group types -/

/-- The values that spell a group type: its number, a decimal or a text that means the number, and
    for the first two types a boolean. -/
inductive GroupType.Spells : Json → GroupType → Prop
  | integer (t : GroupType) : Spells (.integer t.number) t
  | decimal (t : GroupType) (d : Decimal) (h : d.smallInteger? = some t.number) :
    Spells (.decimal d) t
  | text (t : GroupType) (s : Text) (h : readInteger s = .ok t.number) : Spells (.text s) t
  | no : Spells (.boolean false) .undefined
  | yes : Spells (.boolean true) .account

theorem GroupType.ofJson?_eq_some_iff {v : Json} {t : GroupType} :
    GroupType.ofJson? v = some t ↔ GroupType.Spells v t := by
  constructor
  · intro h
    cases v with
    | integer n =>
        obtain rfl := ofNumber?_eq_some_iff.1 h
        exact .integer t
    | boolean b =>
        cases b with
        | false =>
            cases h
            exact .no
        | true =>
            cases h
            exact .yes
    | decimal d =>
        obtain ⟨n, hn, ht⟩ := Option.bind_eq_some_iff.1 h
        rw [Int.ofNat_inj.1 (ofNumber?_eq_some_iff.1 ht)] at hn
        exact .decimal t d hn
    | text s =>
        obtain ⟨n, hn, ht⟩ := Option.bind_eq_some_iff.1 h
        obtain rfl := ofNumber?_eq_some_iff.1 ht
        cases hread : readInteger s with
        | error f =>
            rw [hread] at hn
            cases hn
        | ok n =>
            rw [hread] at hn
            cases hn
            exact .text t s hread
    | _ => cases h
  · intro h
    cases h with
    | integer => exact ofNumber?_eq_some_iff.2 rfl
    | decimal t d h =>
        rw [ofJson?, h]
        exact ofNumber?_eq_some_iff.2 rfl
    | text t s h =>
        rw [ofJson?, h]
        exact ofNumber?_eq_some_iff.2 rfl
    | no => rfl
    | yes => rfl

/-- A group type given under a name; that of many members where none is given. -/
def Members.GivesType (members : Members) (name : String) (t : GroupType) : Prop :=
  (∃ v, members.get? name = some v ∧ GroupType.Spells v t)
    ∨ members.get? name = none ∧ t = .multiMember

theorem groupTypeField_ok_iff {name : String} {t : GroupType} :
    groupTypeField members name = .ok t ↔ members.GivesType name t := by
  unfold groupTypeField Members.GivesType
  simp only [← GroupType.ofJson?_eq_some_iff]
  cases hmember : members.get? name with
  | none => simp [eq_comm]
  | some v => cases htype : GroupType.ofJson? v <;> simp [htype]

/-- Something given under a name that spells no group type. -/
def Members.MisgivesType (members : Members) (name : String) : Prop :=
  ∃ v, members.get? name = some v ∧ ∀ t, ¬GroupType.Spells v t

theorem groupTypeField_error_iff {name : String} :
    (∃ i, groupTypeField members name = .error i) ↔ members.MisgivesType name := by
  unfold groupTypeField Members.MisgivesType
  simp only [← GroupType.ofJson?_eq_some_iff]
  cases hmember : members.get? name with
  | none => simp
  | some v => cases htype : GroupType.ofJson? v <;> simp [htype]

/-! ## Records -/

theorem Contact.ofMembers_ok_iff {c : Contact} :
    Contact.ofMembers members = .ok c
      ↔ bytesField members "account_public_key" = .ok c.accountKey
        ∧ bytesField members "public_rendezvous_seed" = .ok c.seed
        ∧ optionalTextField members "display_name" = .ok c.displayName := by
  constructor
  · intro h
    unfold ofMembers at h
    dsimp only at h
    split at h
    · next hkey hseed hname =>
        cases h
        exact ⟨hkey, hseed, hname⟩
    · cases h
  · rintro ⟨hkey, hseed, hname⟩
    simp only [ofMembers, hkey, hseed, hname]

theorem GroupInvite.ofMembers_ok_iff {g : GroupInvite} :
    GroupInvite.ofMembers members = .ok g
      ↔ ∃ d, g.descriptor = some d
        ∧ bytesField members "public_key" = .ok d.publicKey
        ∧ bytesField members "secret" = .ok d.secret
        ∧ bytesField members "secret_signature" = .ok d.secretSignature
        ∧ groupTypeField members "group_type" = .ok d.groupType
        ∧ bytesField members "signing_public_key" = .ok d.signingKey
        ∧ optionalTextField members "display_name" = .ok g.displayName := by
  constructor
  · intro h
    unfold ofMembers at h
    dsimp only at h
    split at h
    · next hkey hsecret hsignature htype hsigning hname =>
        cases h
        exact ⟨_, rfl, hkey, hsecret, hsignature, htype, hsigning, hname⟩
    · cases h
  · rintro ⟨d, hdescriptor, hkey, hsecret, hsignature, htype, hsigning, hname⟩
    obtain ⟨descriptor, name⟩ := g
    cases hdescriptor
    simp only [ofMembers, hkey, hsecret, hsignature, htype, hsigning, hname]

/-- The record of a kind that a body asks links for. -/
def Record.ofMembers (kind : Kind) (members : Members) : Except (List Issue) Record :=
  match kind with
  | .contact => (Contact.ofMembers members).map .contact
  | .group => (GroupInvite.ofMembers members).map .group

/-- The record of a kind that the members of a body describe. -/
def Members.Describes (members : Members) : Kind → Record → Prop
  | .contact, .contact c =>
    members.GivesOctets "account_public_key" c.accountKey
      ∧ members.GivesOctets "public_rendezvous_seed" c.seed
      ∧ members.GivesText "display_name" c.displayName
  | .group, .group g =>
    ∃ d, g.descriptor = some d
      ∧ members.GivesOctets "public_key" d.publicKey
      ∧ members.GivesOctets "secret" d.secret
      ∧ members.GivesOctets "secret_signature" d.secretSignature
      ∧ members.GivesType "group_type" d.groupType
      ∧ members.GivesOctets "signing_public_key" d.signingKey
      ∧ members.GivesText "display_name" g.displayName
  | _, _ => False

theorem Record.ofMembers_ok_iff {kind : Kind} {r : Record} :
    Record.ofMembers kind members = .ok r ↔ members.Describes kind r := by
  cases kind with
  | contact =>
      rw [ofMembers, map_eq_ok_iff]
      cases r with
      | contact c =>
          simp [Contact.ofMembers_ok_iff, Members.Describes, bytesField_ok_iff,
            optionalTextField_ok_iff]
      | group g => simp [Members.Describes]
  | group =>
      rw [ofMembers, map_eq_ok_iff]
      cases r with
      | contact c => simp [Members.Describes]
      | group g =>
          simp [GroupInvite.ofMembers_ok_iff, Members.Describes, bytesField_ok_iff,
            optionalTextField_ok_iff, groupTypeField_ok_iff]

/-- The fields in which a body gives octets. -/
def Kind.octetFields : Kind → List String
  | .contact => ["account_public_key", "public_rendezvous_seed"]
  | .group => ["public_key", "secret", "secret_signature", "signing_public_key"]

/-- The members of a body describe no record of a kind, as a field of octets lacks them, or the name
    or the group type is given as something else. -/
def Members.Misfits (members : Members) (kind : Kind) : Prop :=
  (∃ field ∈ kind.octetFields, members.LacksOctets field)
    ∨ members.MisgivesText "display_name"
    ∨ kind = .group ∧ members.MisgivesType "group_type"

/-- A contact is read off a body when each of its fields is. -/
theorem Contact.exists_ofMembers_iff :
    (∃ c, Contact.ofMembers members = .ok c)
      ↔ (∃ bs, bytesField members "account_public_key" = .ok bs)
        ∧ (∃ bs, bytesField members "public_rendezvous_seed" = .ok bs)
        ∧ ∃ t, optionalTextField members "display_name" = .ok t := by
  constructor
  · rintro ⟨c, hc⟩
    obtain ⟨hkey, hseed, hname⟩ := ofMembers_ok_iff.1 hc
    exact ⟨⟨_, hkey⟩, ⟨_, hseed⟩, _, hname⟩
  · rintro ⟨⟨key, hkey⟩, ⟨seed, hseed⟩, name, hname⟩
    exact ⟨⟨key, seed, name⟩, ofMembers_ok_iff.2 ⟨hkey, hseed, hname⟩⟩

/-- A group is read off a body when each of its fields is. -/
theorem GroupInvite.exists_ofMembers_iff :
    (∃ g, GroupInvite.ofMembers members = .ok g)
      ↔ (∃ bs, bytesField members "public_key" = .ok bs)
        ∧ (∃ bs, bytesField members "secret" = .ok bs)
        ∧ (∃ bs, bytesField members "secret_signature" = .ok bs)
        ∧ (∃ t, groupTypeField members "group_type" = .ok t)
        ∧ (∃ bs, bytesField members "signing_public_key" = .ok bs)
        ∧ ∃ t, optionalTextField members "display_name" = .ok t := by
  constructor
  · rintro ⟨g, hg⟩
    obtain ⟨d, -, hkey, hsecret, hsignature, htype, hsigning, hname⟩ := ofMembers_ok_iff.1 hg
    exact ⟨⟨_, hkey⟩, ⟨_, hsecret⟩, ⟨_, hsignature⟩, ⟨_, htype⟩, ⟨_, hsigning⟩, _, hname⟩
  · rintro ⟨⟨key, hkey⟩, ⟨secret, hsecret⟩, ⟨signature, hsignature⟩, ⟨t, htype⟩,
      ⟨signing, hsigning⟩, name, hname⟩
    exact ⟨⟨some ⟨key, secret, signature, t, signing⟩, name⟩, ofMembers_ok_iff.2
      ⟨_, rfl, hkey, hsecret, hsignature, htype, hsigning, hname⟩⟩

theorem Record.ofMembers_error_iff {kind : Kind} :
    (∃ issues, Record.ofMembers kind members = .error issues) ↔ members.Misfits kind := by
  rw [Members.Misfits, ← optionalTextField_error_iff, ← groupTypeField_error_iff]
  simp only [← bytesField_error_iff, exists_eq_error_iff]
  cases kind with
  | contact =>
      simp only [ofMembers, exists_map_eq_ok_iff, Contact.exists_ofMembers_iff, Kind.octetFields,
        List.mem_cons, List.not_mem_nil, or_false, exists_eq_or_imp, exists_eq_left]
      grind
  | group =>
      simp only [ofMembers, exists_map_eq_ok_iff, GroupInvite.exists_ofMembers_iff,
        Kind.octetFields, List.mem_cons, List.not_mem_nil, or_false, exists_eq_or_imp,
        exists_eq_left]
      grind

/-- The link of a body is taken without the blanks around it, unless it is too long with them. -/
theorem linkOfMembers_of_text {limit : Int} {t : Text}
    (hmember : members.get? "link" = some (.text t)) :
    linkOfMembers limit members = if limit < t.length then
        .error [⟨[.field "link"], .linkTooLong limit, .text t⟩]
      else .ok (strip t) := by
  simp only [linkOfMembers, linkField, hmember]
  split_ifs <;> rfl

end InviteLink
