import InviteLink.Log.Setup
import InviteLink.Service.Endpoint
import InviteLink.Proofs.Codec.Positional
import InviteLink.Proofs.Text.Utf8
import InviteLink.Proofs.Wire.Form
import InviteLink.Proofs.Wire.Token
import InviteLink.Proofs.Wire.Slot
import InviteLink.Proofs.Wire.Message
import InviteLink.Proofs.Record.Serial
import InviteLink.Proofs.Query
import InviteLink.Proofs.Text.Lowercase
import InviteLink.Proofs.Link.Grammar
import InviteLink.Proofs.Link.RoundTrip
import InviteLink.Proofs.Link.Refusals
import InviteLink.Proofs.Codec.Canonical
import InviteLink.Proofs.Text.Utf8.Strict
import InviteLink.Proofs.Query.Grammar
import InviteLink.Proofs.Link.Accepted
import InviteLink.Proofs.Codec.Base64
import InviteLink.Proofs.Link.Sharing
import InviteLink.Proofs.Service.Endpoint
import InviteLink.Proofs.Service.Reading
import InviteLink.Proofs.Service.RoundTrip
import InviteLink.Proofs.Candidate
import InviteLink.Proofs.Link.Dispatch
import InviteLink.Proofs.Link.Metadata
import InviteLink.Proofs.Wire.Append
import InviteLink.Proofs.Link.KindField
import InviteLink.Proofs.Record.Kind
import InviteLink.Proofs.Link.Parts
import InviteLink.Proofs.Link.Separators
import InviteLink.Proofs.Text.Quoted
import InviteLink.Proofs.Link.Logged
import InviteLink.Proofs.Record.Interchange
import InviteLink.Proofs.Codec.Length
import InviteLink.Proofs.Service.Creating
import InviteLink.Proofs.Link.Confidential
import InviteLink.Proofs.Codec.Base64.Strict
import InviteLink.Proofs.Service.Failing
