import InviteLink.Codec.Alphabet
import InviteLink.Text.Lowercase
import InviteLink.Record.Parts
import InviteLink.Record.Serial

set_option autoImplicit false

/-! # The internal form

`BERTY://PB/` and a blob over the QR alphabet, so that the whole link stays in the alphanumeric
mode of a QR code. `PB` names the framing of the blob; other framings are refused. Reading
disregards the case of everything in front of the blob. The blob may hold slashes. -/

namespace InviteLink.InternalForm

/-- The framing tag of blobs in the wire format of this library. -/
def framing : Text := "PB".points

/-- The link of a record, or the first surrogates in its name; a group without descriptor has
    neither. -/
def encode? (r : Record) : Option (Except SurrogateFault Text) :=
  r.parts?.map fun p => do
    let blob ← p.internalBlob.toOctets true
    return LinkForm.internal.lead.points ++ framing ++ .char '/' :: Codec.qr.encode blob

/-- The record of a blob. -/
def decodeBlob (blob : Text) : Traced Refusal Record := do
  let data ← Traced.ofExcept ((Codec.qr.decode blob).mapError .foreignCharacter)
  Record.ofOctets none data

/-- The record of a link. -/
def decode (uri : Text) : Traced Refusal Record :=
  if hasLead LinkForm.internal.lead.points uri then
    match cut '/' (uri.drop LinkForm.internal.lead.length) with
    | (_, none) => Traced.fail .tooFewParts
    | (tag, some blob) =>
      if lower tag = lower framing then decodeBlob blob
      else do
        Traced.log (.unsupportedFraming tag)
        Traced.fail (.unsupportedFraming tag)
  else Traced.fail .notInternal

end InviteLink.InternalForm
