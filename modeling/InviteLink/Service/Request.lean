import InviteLink.Codec.Base64
import InviteLink.Json.Number
import InviteLink.Record.Basic
import InviteLink.Text.Integer

set_option autoImplicit false

/-! # Request bodies

What the service asks of a request body, field by field. All faults of a body are told, in the
order of the fields; each holds the input that was refused. Members that no field asks for are
passed over. -/

namespace InviteLink

/-! ## Issues -/

/-- What is wrong with a body or one of its fields. -/
inductive IssueCause
  | absent
  | notJson
  | notObject
  | notBytes
  | badBase64 (f : Base64.Fault)
  | notText
  | linkTooLong (limit : Int)
  | notGroupType
  deriving DecidableEq

/-- The name of the cause in replies. -/
def IssueCause.type : IssueCause → String
  | .absent => "missing"
  | .notJson => "json_invalid"
  | .notObject => "model_attributes_type"
  | .notBytes => "bytes_type"
  | .badBase64 _ => "value_error"
  | .notText => "string_type"
  | .linkTooLong _ => "value_error"
  | .notGroupType => "enum"

/-- The cause in words. -/
def IssueCause.message : IssueCause → String
  | .absent => "Field required"
  | .notJson => "JSON decode error"
  | .notObject => "Input should be a valid dictionary or object to extract fields from"
  | .notBytes => "Input should be a valid bytes"
  | .badBase64 f => s!"Value error, {f.message}"
  | .notText => "Input should be a valid string"
  | .linkTooLong limit => s!"Value error, link must be at most {limit} characters"
  | .notGroupType => "Input should be 0, 1, 2 or 3"

/-- A place in a body: a field, or a position in its text. -/
inductive Place
  | field (name : String)
  | position (n : Nat)
  deriving DecidableEq

/-- One fault of a body: where, what, and the input that was refused. -/
structure Issue where
  places : List Place
  cause : IssueCause
  input : Json

/-! ## Fields -/

/-- The members of an object. -/
abbrev Members := List (Text × Json)

/-- The member of a name. -/
def Members.get? (members : Members) (name : String) : Option Json := members.lookup name.points

/-- Octets, given in base 64. -/
def bytesField (members : Members) (name : String) : Except Issue Bytes :=
  match members.get? name with
  | none => .error ⟨[.field name], .absent, .object members⟩
  | some (.text t) =>
    match Base64.decode t with
    | .ok bs => .ok bs
    | .error f => .error ⟨[.field name], .badBase64 f, .text t⟩
  | some v => .error ⟨[.field name], .notBytes, v⟩

/-- A text that may be absent or null; both mean the empty text. -/
def optionalTextField (members : Members) (name : String) : Except Issue Text :=
  match members.get? name with
  | none => .ok []
  | some .null => .ok []
  | some (.text t) => .ok t
  | some v => .error ⟨[.field name], .notText, v⟩

/-- The group type that a value spells: its number, the same as a decimal or in a text, or a
    boolean for the first two. -/
def GroupType.ofJson? : Json → Option GroupType
  | .integer n => GroupType.ofNumber? n
  | .boolean b => GroupType.ofNumber? (if b then 1 else 0)
  | .decimal d => d.smallInteger?.bind fun n => GroupType.ofNumber? n
  | .text t => (readInteger t).toOption.bind GroupType.ofNumber?
  | _ => none

/-- A group type; without one the group has many members. -/
def groupTypeField (members : Members) (name : String) : Except Issue GroupType :=
  match members.get? name with
  | none => .ok .multiMember
  | some v =>
    match GroupType.ofJson? v with
    | some t => .ok t
    | none => .error ⟨[.field name], .notGroupType, v⟩

/-- A link of at most `limit` code points, from which blanks at either end are taken off. -/
def linkField (limit : Int) (members : Members) (name : String) : Except Issue Text :=
  match members.get? name with
  | none => .error ⟨[.field name], .absent, .object members⟩
  | some (.text t) =>
    if limit < t.length then .error ⟨[.field name], .linkTooLong limit, .text t⟩
    else .ok (strip t)
  | some v => .error ⟨[.field name], .notText, v⟩

/-! ## Bodies -/

/-- The fault of a field, if it has one. -/
def issueOf {α : Type} : Except Issue α → List Issue
  | .ok _ => []
  | .error i => [i]

/-- The contact that a body asks a link for. -/
def Contact.ofMembers (members : Members) : Except (List Issue) Contact :=
  let accountKey := bytesField members "account_public_key"
  let seed := bytesField members "public_rendezvous_seed"
  let displayName := optionalTextField members "display_name"
  match accountKey, seed, displayName with
  | .ok accountKey, .ok seed, .ok displayName => .ok ⟨accountKey, seed, displayName⟩
  | _, _, _ => .error (issueOf accountKey ++ issueOf seed ++ issueOf displayName)

/-- The group that a body asks a link for. -/
def GroupInvite.ofMembers (members : Members) : Except (List Issue) GroupInvite :=
  let publicKey := bytesField members "public_key"
  let secret := bytesField members "secret"
  let secretSignature := bytesField members "secret_signature"
  let groupType := groupTypeField members "group_type"
  let signingKey := bytesField members "signing_public_key"
  let displayName := optionalTextField members "display_name"
  match publicKey, secret, secretSignature, groupType, signingKey, displayName with
  | .ok publicKey, .ok secret, .ok secretSignature, .ok groupType, .ok signingKey,
    .ok displayName =>
    .ok ⟨some ⟨publicKey, secret, secretSignature, groupType, signingKey⟩, displayName⟩
  | _, _, _, _, _, _ =>
    .error (issueOf publicKey ++ issueOf secret ++ issueOf secretSignature ++ issueOf groupType
      ++ issueOf signingKey ++ issueOf displayName)

/-- The link that a body asks to be read. -/
def linkOfMembers (limit : Int) (members : Members) : Except (List Issue) Text :=
  (linkField limit members "link").mapError fun i => [i]

end InviteLink
