import InviteLink.Candidate
import InviteLink.Service.Request

set_option autoImplicit false

/-! # Replies

What the service answers, by its meaning, and the status and body of each answer. Octets are
written in base 64. -/

namespace InviteLink

/-! ## Records in replies -/

/-- Octets in a body. -/
def Json.ofBytes64 (bs : Bytes) : Json := .text (Base64.encode bs)

/-- A contact in a body. -/
def Contact.toJson (c : Contact) : Json := .object [
  ("account_public_key".points, .ofBytes64 c.accountKey),
  ("public_rendezvous_seed".points, .ofBytes64 c.seed),
  ("display_name".points, .text c.displayName)]

/-- A descriptor in a body. -/
def Descriptor.toJson (d : Descriptor) : Json := .object [
  ("public_key".points, .ofBytes64 d.publicKey),
  ("secret".points, .ofBytes64 d.secret),
  ("secret_signature".points, .ofBytes64 d.secretSignature),
  ("group_type".points, .integer d.groupType.number),
  ("signing_public_key".points, .ofBytes64 d.signingKey)]

/-- The contact of a record in a body, null for a group. -/
def Record.contactJson : Record → Json
  | .contact c => c.toJson
  | .group _ => .null

/-- The descriptor of a record in a body, null for a contact and for a group without one. -/
def Record.descriptorJson : Record → Json
  | .contact _ => .null
  | .group g => (g.descriptor.map Descriptor.toJson).getD .null

/-- A record in a body: its kind, its name, and both variants, of which one at most is there. -/
def Record.toJson (r : Record) : Json := .object [
  ("kind".points, .ofString r.kind.tag),
  ("display_name".points, .text r.displayName),
  ("contact".points, r.contactJson),
  ("group".points, r.descriptorJson)]

/-- A candidate in a body; only records have one. -/
def Candidate.toJson : Candidate → Except Misuse Json
  | .record r => .ok r.toJson
  | _ => .error .noSuchPart

/-! ## Answers -/

/-- What the service answers. -/
inductive Reply
  | healthy
  | created (kind : Kind) (links : Links)
  | parsed (r : Record)
  | refused (e : Refusal)
  | unreadable
  | malformed (issues : List Issue)
  | notFound
  | methodNotAllowed
  | failed

/-- A place in a list of issues. -/
def Place.toJson : Place → Json
  | .field name => .ofString name
  | .position n => .integer n

/-- An issue as it is told to the caller. -/
def Issue.toJson (i : Issue) : Json := .object [
  ("type".points, .ofString i.cause.type),
  ("loc".points, .list (.ofString "body" :: i.places.map Place.toJson)),
  ("msg".points, .ofString i.cause.message)]

namespace Reply

/-- The status of an answer. -/
def status : Reply → Nat
  | .healthy => 200
  | .created _ _ => 201
  | .parsed _ => 200
  | .refused _ => 400
  | .unreadable => 400
  | .malformed _ => 422
  | .notFound => 404
  | .methodNotAllowed => 405
  | .failed => 500

/-- A body that holds one detail. -/
def detail (d : Json) : Json := .object [("detail".points, d)]

/-- The body of an answer. -/
def body : Reply → Json
  | .healthy => .object [
    ("status".points, .ofString "healthy"), ("service".points, .ofString "sharelink")]
  | .created kind links => .object [
    ("kind".points, .ofString kind.tag),
    ("internal".points, .text links.internal),
    ("web".points, .text links.web)]
  | .parsed r => r.toJson
  | .refused e => .object [
    ("detail".points, .ofString e.message), ("code".points, .ofString e.code)]
  | .unreadable => detail (.ofString "There was an error parsing the body")
  | .malformed issues => detail (.list (issues.map Issue.toJson))
  | .notFound => detail (.ofString "Not Found")
  | .methodNotAllowed => detail (.ofString "Method Not Allowed")
  | .failed => detail (.ofString "Internal server error")

/-- The flaws that keep an answer from being written. A report of issues repeats the refused inputs,
    and theirs count; any other answer is its body. -/
def flaws : Reply → List Json.Flaw
  | .malformed issues => issues.flatMap fun i => i.input.flaws
  | reply => reply.body.flaws

/-- The flaw that the writing of an answer fails for, if it does: all of it is put into words, for
    which numbers have to be finite, before any of it is put into octets. -/
def unwritable? (reply : Reply) : Option Json.Flaw :=
  if .nonfinite ∈ reply.flaws then some .nonfinite else reply.flaws.head?

end Reply

end InviteLink
