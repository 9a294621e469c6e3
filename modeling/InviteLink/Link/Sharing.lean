import InviteLink.Link.Internal
import InviteLink.Link.Web
import InviteLink.Record.Shareable

set_option autoImplicit false

/-! # Links of records, records of links

A record that may be shared has two links, one of each form, if its name can be written, and a link
of either form gives a record back. The form of a link is found by what it begins with, and a link
that is refused is logged by that form, its length and the cause. -/

namespace InviteLink

/-- The two links of a record. -/
structure Links where
  internal : Text
  web : Text
  deriving DecidableEq

/-! ## Sharing -/

/-- Why a record is not shared: it is refused, or its name cannot be written. The check that
    refuses does not look at the name. -/
inductive SharingFault
  | refused (e : Refusal)
  | unwritable (f : SurrogateFault)
  deriving DecidableEq

/-- What an encoder gives; a record that has no link of its form lacks its descriptor. -/
def ofEncoder (encoded : Option (Except SurrogateFault Text)) : Except SharingFault Text :=
  match encoded with
  | none => .error (.refused .noDescriptor)
  | some link => link.mapError .unwritable

namespace Record

/-- The internal link of a record that may be shared. -/
def toInternalLink (r : Record) : Traced SharingFault Text := do
  r.requireShareable.mapFault .refused
  Traced.ofExcept (ofEncoder (InternalForm.encode? r))

/-- The web link of a record that may be shared. -/
def toWebLink (r : Record) : Traced SharingFault Text := do
  r.requireShareable.mapFault .refused
  Traced.ofExcept (ofEncoder (WebForm.encode? r))

/-- Both links of a record that may be shared. -/
def toLinks (r : Record) : Traced SharingFault Links := do
  r.requireShareable.mapFault .refused
  let internal ← Traced.ofExcept (ofEncoder (InternalForm.encode? r))
  let web ← Traced.ofExcept (ofEncoder (WebForm.encode? r))
  Traced.log (.linksMade r.kind internal.length web.length)
  return ⟨internal, web⟩

end Record

/-! ## Reading -/

namespace LinkForm

/-- The form that a link begins like. -/
def detect (link : Text) : Option LinkForm :=
  if hasLead LinkForm.internal.lead.points link then some .internal
  else if hasLead LinkForm.web.lead.points link then some .web
  else none

/-- The record of a link that was found to be of a form. -/
def decode (form : Option LinkForm) (link : Text) : Traced Refusal Record :=
  match form with
  | some .internal => InternalForm.decode link
  | some .web => WebForm.decode link
  | none => Traced.fail .unknownFormat

end LinkForm

/-- The record of a link of either form. -/
def Record.ofLink (link : Text) : Traced Refusal Record :=
  if link = [] then Traced.fail .noLink
  else do
    let form := LinkForm.detect link
    let record ← (LinkForm.decode form link).logFault (.linkRefused form link.length)
    Traced.log (.linkRead record.kind)
    return record

end InviteLink
