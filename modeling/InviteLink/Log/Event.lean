import InviteLink.Json.Basic
import InviteLink.Refusal

set_option autoImplicit false

/-! # What is logged

The events of the library, and the logger, level and wording of each. Links may carry secrets, so
an event about a link holds its form, its length or the first characters of a tag, and the cause
of a refusal. -/

namespace InviteLink

/-- The two forms of a link. -/
inductive LinkForm
  | internal
  | web
  deriving DecidableEq

/-- What every link of a form begins with. -/
def LinkForm.lead : LinkForm → String
  | .internal => "BERTY://"
  | .web => "https://berty.tech/id#"

/-- Levels of importance. -/
inductive Level
  | debug
  | info
  | warning
  | error
  deriving DecidableEq

/-- The name of a level. -/
def Level.name : Level → String
  | .debug => "DEBUG"
  | .info => "INFO"
  | .warning => "WARNING"
  | .error => "ERROR"

/-- Something worth a line in the log. -/
inductive Event
  | groupRefused (t : GroupType)
  | unsupportedFraming (tag : Text)
  | unknownTag (tag : Text)
  | blobRejected (size : Nat) (fault : Wire.Fault)
  | linkRead (kind : Kind)
  | linkRefused (form : Option LinkForm) (length : Nat) (cause : Refusal)
  | linksMade (kind : Kind) (internal web : Nat)
  | created (kind : Kind)
  | requestRejected (method path : Text) (cause : Refusal)
  | recordUnwritable (fault : SurrogateFault)
  | replyUnwritable (flaw : Json.Flaw)
  deriving DecidableEq

namespace Event

/-- The logger that an event goes to. -/
def logger : Event → String
  | .groupRefused _ => "sharelink.services.validator"
  | .unsupportedFraming _ => "sharelink.services.internal_link"
  | .unknownTag _ => "sharelink.services.web_link"
  | .blobRejected _ _ => "sharelink.services.wire"
  | .linkRead _ | .linkRefused _ _ _ | .linksMade _ _ _ => "sharelink.services.linker"
  | .created _ => "sharelink.api.links"
  | .requestRejected _ _ _ | .recordUnwritable _ | .replyUnwritable _ => "sharelink"

/-- How important an event is. -/
def level : Event → Level
  | .linkRead _ => .debug
  | .linkRefused _ _ _ | .requestRejected _ _ _ => .warning
  | .recordUnwritable _ | .replyUnwritable _ => .error
  | _ => .info

/-- The event in words. Tags are cut to their first fifty characters. Of a surrogate in a reply only
    that it was one is told, not where it would stand in the octets of the reply. -/
def message : Event → String
  | .groupRefused t => s!"Refusing to share a {t.label} group"
  | .unsupportedFraming tag => s!"Unsupported internal link type {quoted (tag.take 50)}"
  | .unknownTag tag => s!"Unknown web link kind {quoted (tag.take 50)}"
  | .blobRejected size fault => s!"Rejected link blob of {size} bytes: {fault.message}"
  | .linkRead kind => s!"Unmarshalled {kind.label} link"
  | .linkRefused form length cause =>
    let lead := (form.map LinkForm.lead).getD "unknown"
    s!"Failed to unmarshal {lead} link of {length} chars due to: {cause.message}"
  | .linksMade kind internal web =>
    s!"Marshalled {kind.label} link: internal={internal} chars, web={web} chars"
  | .created kind => s!"API success: {kind.tag} link created"
  | .requestRejected method path cause =>
    s!"Rejected {method.shown} {path.shown}: {cause.message}"
  | .recordUnwritable fault => s!"Unhandled exception: {fault.message}"
  | .replyUnwritable flaw => s!"Unhandled exception: {flaw.message}"

/-- The line of an event: logger, level and wording. -/
def line (e : Event) : String × String × String := (e.logger, e.level.name, e.message)

end Event

end InviteLink
