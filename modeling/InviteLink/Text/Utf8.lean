import InviteLink.Text.Hex

set_option autoImplicit false

/-! # UTF-8

`Utf8.encode` writes a text of characters as octets. `Utf8.decode` reads octets back and is strict:
no surrogates, no over-long forms, nothing above the last code point. It walks the octets once and
keeps the sequence under way, so that a refusal can say where the sequence began, how much of it
was well formed and what was wrong with it. -/

namespace InviteLink.Utf8

/-! ## Writing -/

/-- The one to four octets of a code point. -/
def encodeChar (c : Char) : Bytes :=
  let n := c.toNat
  if n < 0x80 then [UInt8.ofNat n]
  else if n < 0x800 then
    [UInt8.ofNat (0xC0 + n / 0x40), UInt8.ofNat (0x80 + n % 0x40)]
  else if n < 0x10000 then
    [UInt8.ofNat (0xE0 + n / 0x1000), UInt8.ofNat (0x80 + n / 0x40 % 0x40),
      UInt8.ofNat (0x80 + n % 0x40)]
  else
    [UInt8.ofNat (0xF0 + n / 0x40000), UInt8.ofNat (0x80 + n / 0x1000 % 0x40),
      UInt8.ofNat (0x80 + n / 0x40 % 0x40), UInt8.ofNat (0x80 + n % 0x40)]

/-- The octets of a text. -/
def encode (t : ScalarText) : Bytes := t.flatMap encodeChar

/-! ## Reading -/

/-- Why an octet sequence is no code point. -/
inductive Reason
  | startOctet
  | continuationOctet
  | endOfData
  deriving DecidableEq

/-- An ill-formed sequence: where it begins, its first octet, and how many octets of it were taken
    before the fault showed. -/
structure Fault where
  position : Nat
  first : UInt8
  size : Nat
  reason : Reason
  deriving DecidableEq

/-- A sequence whose last octets are still to come: its first octet, the octets taken, the value
    they give, the number still needed, and the range that the next one must lie in. -/
structure Pending where
  first : UInt8
  size : Nat
  value : Nat
  more : Nat
  low : Nat
  high : Nat
  deriving DecidableEq

/-- What an octet means where no sequence is under way. -/
inductive Start
  | whole (c : Char)
  | opens (p : Pending)
  | invalid

/-- The start of a sequence. The range of the second octet shuts out over-long forms, surrogates
    and values above the last code point. -/
def start (b : UInt8) : Start :=
  let n := b.toNat
  if n < 0x80 then .whole (Char.ofNat n)
  else if n < 0xC2 then .invalid
  else if n < 0xE0 then .opens ⟨b, 1, n - 0xC0, 1, 0x80, 0xBF⟩
  else if n < 0xF0 then
    .opens ⟨b, 1, n - 0xE0, 2, if n = 0xE0 then 0xA0 else 0x80, if n = 0xED then 0x9F else 0xBF⟩
  else if n < 0xF5 then
    .opens ⟨b, 1, n - 0xF0, 3, if n = 0xF0 then 0x90 else 0x80, if n = 0xF4 then 0x8F else 0xBF⟩
  else .invalid

/-- The sequence with one more octet, which was found to lie in range. -/
def Pending.push (p : Pending) (b : UInt8) : Pending :=
  { p with
    size := p.size + 1
    value := p.value * 0x40 + b.toNat % 0x40
    more := p.more - 1
    low := 0x80
    high := 0xBF }

/-- Reads on from octet number `position`, with the sequence that is under way if there is one. -/
def decodeFrom (position : Nat) : Option Pending → Bytes → Except Fault ScalarText
  | none, [] => .ok []
  | some p, [] => .error ⟨position - p.size, p.first, p.size, .endOfData⟩
  | none, b :: rest =>
    match start b with
    | .whole c => (decodeFrom (position + 1) none rest).map (c :: ·)
    | .opens p => decodeFrom (position + 1) (some p) rest
    | .invalid => .error ⟨position, b, 1, .startOctet⟩
  | some p, b :: rest =>
    if p.low ≤ b.toNat ∧ b.toNat ≤ p.high then
      if p.more = 1 then
        (decodeFrom (position + 1) none rest).map (Char.ofNat (p.push b).value :: ·)
      else decodeFrom (position + 1) (some (p.push b)) rest
    else .error ⟨position - p.size, p.first, p.size, .continuationOctet⟩

/-- The text that the octets spell, or the first ill-formed sequence. -/
def decode (bs : Bytes) : Except Fault ScalarText := decodeFrom 0 none bs

/-! ## Wording -/

/-- The fault in words. -/
def Reason.message : Reason → String
  | .startOctet => "invalid start byte"
  | .continuationOctet => "invalid continuation byte"
  | .endOfData => "unexpected end of data"

/-- A fault of one octet names the octet, a longer one its first and last position. -/
def Fault.message (f : Fault) : String :=
  let spot :=
    if f.size = 1 then
      s!"byte 0x{String.ofList (hexDigits .lower 2 f.first.toNat)} in position {f.position}"
    else s!"bytes in position {f.position}-{f.position + f.size - 1}"
  s!"'utf-8' codec can't decode {spot}: {f.reason.message}"

end InviteLink.Utf8
