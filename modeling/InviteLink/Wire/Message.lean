import InviteLink.Text.Utf8
import InviteLink.Wire.Scan

set_option autoImplicit false

/-! # The link message

The message that the blob of a link holds, and its three inner messages. A field that is absent
has the empty value; a number or an octet string that is empty is not written, an inner message
that is there is written even if it is empty. On reading, fields come in any order, the last
value of a repeated field wins, repeated inner messages are read one into the other, and fields
that are unknown, or known with another shape, are passed over. -/

namespace InviteLink.Wire

/-- Why octets are no link message. -/
inductive Fault
  | corrupt
  | badText
  deriving DecidableEq

/-- The fault in words. -/
def Fault.message (f : Fault) : String :=
  let cause := match f with
    | .corrupt => "Wire format was corrupt"
    | .badText => "String field had bad UTF-8"
  s!"Error parsing message with type 'sharelink.v1.BertyLink': {cause}"

/-! ## The messages -/

/-- The keys of one account. -/
structure IdentityMessage where
  seed : Bytes := []
  accountKey : Bytes := []
  displayName : ScalarText := []
  deriving DecidableEq

/-- The keys of a group. -/
structure DescriptorMessage where
  publicKey : Bytes := []
  secret : Bytes := []
  secretSignature : Bytes := []
  groupType : Int := 0
  signingKey : Bytes := []
  deriving DecidableEq

/-- A group with its name. -/
structure GroupMessage where
  descriptor : Option DescriptorMessage := none
  displayName : ScalarText := []
  deriving DecidableEq

/-- The message of a link. -/
structure InviteMessage where
  kind : Int := 0
  identity : Option IdentityMessage := none
  group : Option GroupMessage := none
  deriving DecidableEq

/-! ## Writing -/

/-- An octet string, unless it is empty. -/
def putBytes (number : Nat) (bs : Bytes) : Bytes := if bs = [] then [] else writeChunk number bs

/-- A text, unless it is empty. -/
def putText (number : Nat) (t : ScalarText) : Bytes := putBytes number (Utf8.encode t)

/-- A number of an enumeration, unless it is zero; a negative one takes the octets of its 64-bit
    complement. -/
def putNumber (number : Nat) (n : Int) : Bytes :=
  if n = 0 then [] else writeVarint number (n % 0x10000000000000000).toNat

/-- An inner message, if it is there. -/
def putMessage (number : Nat) : Option Bytes → Bytes
  | none => []
  | some bs => writeChunk number bs

/-- The octets of an identity. -/
def IdentityMessage.write (m : IdentityMessage) : Bytes :=
  putBytes 1 m.seed ++ putBytes 2 m.accountKey ++ putText 3 m.displayName

/-- The octets of a descriptor. -/
def DescriptorMessage.write (m : DescriptorMessage) : Bytes :=
  putBytes 1 m.publicKey ++ putBytes 2 m.secret ++ putBytes 3 m.secretSignature
    ++ putNumber 4 m.groupType ++ putBytes 5 m.signingKey

/-- The octets of a group. -/
def GroupMessage.write (m : GroupMessage) : Bytes :=
  putMessage 1 (m.descriptor.map DescriptorMessage.write) ++ putText 2 m.displayName

/-- The octets of a link message. -/
def InviteMessage.write (m : InviteMessage) : Bytes :=
  putNumber 1 m.kind ++ putMessage 2 (m.identity.map IdentityMessage.write)
    ++ putMessage 3 (m.group.map GroupMessage.write)

/-! ## Reading -/

/-- The number of an enumeration: the low 32 bits of a varint, as a signed number. -/
def signed32 (n : Nat) : Int :=
  let low := n % 0x100000000
  if low < 0x80000000 then Int.ofNat low else Int.ofNat low - 0x100000000

/-- The text of a field. -/
def getText (bs : Bytes) : Except Fault ScalarText :=
  match Utf8.decode bs with
  | .ok t => .ok t
  | .error _ => .error .badText

/-- Reads octets into a message field by field; the first fault wins, and octets that break off
    count as a fault behind the last sound field. -/
def readInto {M : Type} (apply : M → Token → Except Fault M) (budget : Nat) (m : M) (bs : Bytes) :
    Except Fault M :=
  match (scan budget bs).1.foldlM apply m with
  | .error f => .error f
  | .ok m => if (scan budget bs).2 then .ok m else .error .corrupt

/-- An identity with one more field. -/
def IdentityMessage.apply (m : IdentityMessage) (t : Token) : Except Fault IdentityMessage :=
  match t with
  | ⟨1, .chunk bs⟩ => .ok { m with seed := bs }
  | ⟨2, .chunk bs⟩ => .ok { m with accountKey := bs }
  | ⟨3, .chunk bs⟩ => (getText bs).map fun name => { m with displayName := name }
  | _ => .ok m

/-- A descriptor with one more field. -/
def DescriptorMessage.apply (m : DescriptorMessage) (t : Token) :
    Except Fault DescriptorMessage :=
  match t with
  | ⟨1, .chunk bs⟩ => .ok { m with publicKey := bs }
  | ⟨2, .chunk bs⟩ => .ok { m with secret := bs }
  | ⟨3, .chunk bs⟩ => .ok { m with secretSignature := bs }
  | ⟨4, .varint n⟩ => .ok { m with groupType := signed32 n }
  | ⟨5, .chunk bs⟩ => .ok { m with signingKey := bs }
  | _ => .ok m

/-- A group with one more field. -/
def GroupMessage.apply (m : GroupMessage) (t : Token) : Except Fault GroupMessage :=
  match t with
  | ⟨1, .chunk bs⟩ =>
    (readInto DescriptorMessage.apply (depthLimit - 2) (m.descriptor.getD {}) bs).map
      fun d => { m with descriptor := some d }
  | ⟨2, .chunk bs⟩ => (getText bs).map fun name => { m with displayName := name }
  | _ => .ok m

/-- A link message with one more field. -/
def InviteMessage.apply (m : InviteMessage) (t : Token) : Except Fault InviteMessage :=
  match t with
  | ⟨1, .varint n⟩ => .ok { m with kind := signed32 n }
  | ⟨2, .chunk bs⟩ =>
    (readInto IdentityMessage.apply (depthLimit - 1) (m.identity.getD {}) bs).map
      fun i => { m with identity := some i }
  | ⟨3, .chunk bs⟩ =>
    (readInto GroupMessage.apply (depthLimit - 1) (m.group.getD {}) bs).map
      fun g => { m with group := some g }
  | _ => .ok m

/-- The link message that the octets hold. -/
def InviteMessage.read (bs : Bytes) : Except Fault InviteMessage :=
  readInto InviteMessage.apply depthLimit {} bs

end InviteLink.Wire
