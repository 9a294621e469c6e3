import InviteLink.Codec.Positional
import InviteLink.Record.Basic
import InviteLink.Wire.Message

set_option autoImplicit false

/-! # Refusals

Every way in which a link or a record is refused, by its cause. A cause has a class, which tells
a caller whether something was missing or something was wrong, and a wording. -/

namespace InviteLink

/-- The kind that something which is no record states. `unknown` is the zero of the enumeration of
    kinds, as opposed to the bare number. -/
inductive ForeignKind
  | number (n : Int)
  | text (t : Text)
  | none
  | unknown
  deriving DecidableEq

/-- How a stated kind is shown. -/
def ForeignKind.shown : ForeignKind → String
  | .number n => toString n
  | .text t => quoted t
  | .none => "None"
  | .unknown => "<LinkKind.UNKNOWN: 0>"

/-- The classes of refusal. A foreign character is a special case of something invalid. -/
inductive RefusalClass
  | missing
  | invalid
  | foreign
  deriving DecidableEq

/-- The code of a class in replies. -/
def RefusalClass.code : RefusalClass → String
  | .missing => "missing_input"
  | .invalid => "invalid_input"
  | .foreign => "invalid_input"

/-- Why a link or a record is refused. -/
inductive Refusal
  | noLink
  | noKind
  | noAccountKey
  | noSeed
  | noDescriptor
  | unshareable (t : GroupType)
  | unsupportedKind (k : ForeignKind)
  | unwritableKind (k : ForeignKind)
  | unknownFormat
  | notInternal
  | notWeb
  | tooFewParts
  | unsupportedFraming (tag : Text)
  | emptyFragment
  | unknownTag (tag : Text)
  | emptyBlob
  | foreignCharacter (f : ForeignCharacter)
  | malformedBlob (f : Wire.Fault)
  | unknownKind (n : Int)
  | unknownGroupType (n : Int)
  | badEscape
  | malformedMetadata (f : Utf8.Fault)
  deriving DecidableEq

namespace Refusal

/-- The class of a cause. -/
def refusalClass : Refusal → RefusalClass
  | .noLink | .noKind | .noAccountKey | .noSeed | .noDescriptor => .missing
  | .foreignCharacter _ => .foreign
  | _ => .invalid

/-- The code of a cause in replies. -/
def code (e : Refusal) : String := e.refusalClass.code

/-- The cause in words. -/
def message : Refusal → String
  | .noLink => "link is empty"
  | .noKind => "link kind is missing"
  | .noAccountKey => "contact link is missing the account public key"
  | .noSeed => "contact link is missing the public rendezvous seed"
  | .noDescriptor => "group link is missing the group"
  | .unshareable t => s!"can't share a {t.label} group type"
  | .unsupportedKind k => s!"unsupported link kind {k.shown}"
  | .unwritableKind k => s!"cannot serialize link kind {k.shown}"
  | .unknownFormat => "unsupported link format"
  | .notInternal => "not an internal link"
  | .notWeb => "not a web link"
  | .tooFewParts => "URI should have at least 2 parts"
  | .unsupportedFraming tag => s!"unsupported link type: {quoted tag}"
  | .emptyFragment => "web link has an empty fragment"
  | .unknownTag tag => s!"unknown link kind {quoted tag}"
  | .emptyBlob => "web link has an empty blob"
  | .foreignCharacter f => f.message
  | .malformedBlob f => s!"malformed link blob: {f.message}"
  | .unknownKind n => s!"unknown link kind {n}"
  | .unknownGroupType n => s!"unknown group type {n}"
  | .badEscape => "malformed link metadata: invalid URL escape"
  | .malformedMetadata f => s!"malformed link metadata: {f.message}"

end Refusal

end InviteLink
