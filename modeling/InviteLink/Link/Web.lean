import InviteLink.Codec.Alphabet
import InviteLink.Query
import InviteLink.Text.Lowercase
import InviteLink.Record.Parts
import InviteLink.Record.Serial

set_option autoImplicit false

/-! # The web form

`https://berty.tech/id#`, the tag of the kind, a slash, a blob in base 58, and, if there is
something for people to read, a slash and a query text. Everything behind the number sign stays
in the browser, so no server sees it. The blob leaves out the kind, which the tag states, and the
name, which the query text holds; a name in the blob of a link wins over one in its query text. -/

namespace InviteLink.WebForm

/-- The link of a record, or the first surrogates in its name; a group without descriptor has
    neither. -/
def encode? (r : Record) : Option (Except SurrogateFault Text) :=
  r.parts?.map fun p => do
    let blob ← p.webBlob.toOctets false
    let query ← Query.write p.readable
    return LinkForm.web.lead.points ++ r.kind.tag.points
      ++ .char '/' :: Codec.base58.encode blob
      ++ if p.readable = [] then [] else .char '/' :: query

/-- The readable pairs of a query text, the first of each name. -/
def readMetadata (query : Text) : Except Refusal (List (Text × Text)) :=
  if Query.wellEscaped query then
    match Query.decode query with
    | .error f => .error (.malformedMetadata f)
    | .ok pairs => .ok (Query.firstOfEachName pairs)
  else .error .badEscape

/-- The record of a blob under a kind, with what the query text adds to it. -/
def decodeBlob (kind : Kind) (blob query : Text) : Traced Refusal Record := do
  let data ← Traced.ofExcept ((Codec.base58.decode blob).mapError .foreignCharacter)
  let record ← Record.ofOctets (some kind.number) data
  let pairs ← Traced.ofExcept (readMetadata query)
  return record.adoptName ((pairs.lookup nameKey).getD [])

/-- The record of what stands behind the number sign. -/
def decodeFragment (fragment : Text) : Traced Refusal Record :=
  if fragment = [] then Traced.fail .emptyFragment
  else
    match cut '/' fragment with
    | (_, none) => Traced.fail .tooFewParts
    | (tag, some rest) =>
      match Kind.ofTag? tag with
      | none => do
        Traced.log (.unknownTag tag)
        Traced.fail (.unknownTag tag)
      | some kind =>
        let (blob, query) := cut '/' rest
        if blob = [] then Traced.fail .emptyBlob else decodeBlob kind blob (query.getD [])

/-- The record of a link. -/
def decode (uri : Text) : Traced Refusal Record :=
  if hasLead LinkForm.web.lead.points uri then decodeFragment ((cut '#' uri).2.getD [])
  else Traced.fail .notWeb

end InviteLink.WebForm
