import InviteLink.Text.Basic

set_option autoImplicit false

/-! # Invite records

What a link carries: the invitation of one account, or the invitation to a group. The kind of a
record is the variant it is made of, so the two cannot disagree. -/

namespace InviteLink

/-! ## Kinds -/

/-- The kinds of record a link can carry. -/
inductive Kind
  | contact
  | group
  deriving DecidableEq, Repr

namespace Kind

/-- The number of a kind; zero is kept for "no kind". -/
def number : Kind → Nat
  | .contact => 1
  | .group => 2

/-- The kind with a number. -/
def ofNumber? (n : Int) : Option Kind :=
  if n = 1 then some .contact else if n = 2 then some .group else none

/-- The readable tag of a kind. -/
def tag : Kind → String
  | .contact => "contact"
  | .group => "group"

/-- The kind with a tag; tags are told apart by case. -/
def ofTag? (t : Text) : Option Kind :=
  if t = Kind.contact.tag.points then some .contact
  else if t = Kind.group.tag.points then some .group
  else none

/-- The name of a kind in the log. -/
def label : Kind → String
  | .contact => "CONTACT_INVITE_V1"
  | .group => "GROUP_V1"

end Kind

/-! ## Group types -/

/-- What a group is for. Only groups of many members may be shared. -/
inductive GroupType
  | undefined
  | account
  | contact
  | multiMember
  deriving DecidableEq, Repr

namespace GroupType

/-- The number of a group type. -/
def number : GroupType → Nat
  | .undefined => 0
  | .account => 1
  | .contact => 2
  | .multiMember => 3

/-- The group type with a number. -/
def ofNumber? (n : Int) : Option GroupType :=
  if n = 0 then some .undefined
  else if n = 1 then some .account
  else if n = 2 then some .contact
  else if n = 3 then some .multiMember
  else none

/-- A type is found by its own number only. -/
theorem ofNumber?_eq_some_iff {n : Int} {t : GroupType} : ofNumber? n = some t ↔ n = t.number := by
  cases t <;> grind [ofNumber?, number]

/-- The name of a group type in messages. -/
def label : GroupType → String
  | .undefined => "UNDEFINED"
  | .account => "ACCOUNT"
  | .contact => "CONTACT"
  | .multiMember => "MULTI_MEMBER"

end GroupType

/-! ## Records -/

/-- The invitation of one account. -/
structure Contact where
  accountKey : Bytes := []
  seed : Bytes := []
  displayName : Text := []
  deriving DecidableEq, Repr

/-- The keys that let someone join a group. -/
structure Descriptor where
  publicKey : Bytes := []
  secret : Bytes := []
  secretSignature : Bytes := []
  groupType : GroupType := .undefined
  signingKey : Bytes := []
  deriving DecidableEq, Repr

/-- The invitation to a group, which may lack its descriptor. -/
structure GroupInvite where
  descriptor : Option Descriptor := none
  displayName : Text := []
  deriving DecidableEq, Repr

/-- What a link carries. -/
inductive Record
  | contact (c : Contact)
  | group (g : GroupInvite)
  deriving DecidableEq, Repr

namespace Record

/-- The kind of a record. -/
def kind : Record → Kind
  | .contact _ => .contact
  | .group _ => .group

/-- The name that a record shows to people. -/
def displayName : Record → Text
  | .contact c => c.displayName
  | .group g => g.displayName

/-- The record under another name. -/
def withDisplayName (name : Text) : Record → Record
  | .contact c => .contact { c with displayName := name }
  | .group g => .group { g with displayName := name }

end Record

end InviteLink
