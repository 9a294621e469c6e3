import InviteLink.Text.Basic

set_option autoImplicit false

/-! # Base 64

The standard alphabet, read strictly: no blanks, no line breaks, nothing after the padding, and
padding only behind two or three characters of a group, except that surplus padding signs behind
whole groups are passed over. The bits that the last character of a short group has to spare are
not looked at. -/

namespace InviteLink.Base64

/-! ## Characters -/

/-- The character for a value below 64. -/
def symbol (v : Nat) : CodePoint :=
  if v < 26 then CodePoint.ofNat (65 + v)
  else if v < 52 then CodePoint.ofNat (71 + v)
  else if v < 62 then CodePoint.ofNat (v - 4)
  else if v = 62 then '+'
  else '/'

/-- The value of a character of the alphabet. -/
def value? (c : CodePoint) : Option Nat :=
  let n := c.toNat
  if 65 ≤ n ∧ n ≤ 90 then some (n - 65)
  else if 97 ≤ n ∧ n ≤ 122 then some (n - 71)
  else if 48 ≤ n ∧ n ≤ 57 then some (n + 4)
  else if c = '+' then some 62
  else if c = '/' then some 63
  else none

/-! ## Writing -/

/-- The text of an octet string, three octets to a group of four characters. -/
def encode : Bytes → Text
  | [] => []
  | [a] =>
    [symbol (a.toNat / 4), symbol (a.toNat % 4 * 16), '=', '=']
  | [a, b] =>
    [symbol (a.toNat / 4), symbol (a.toNat % 4 * 16 + b.toNat / 16), symbol (b.toNat % 16 * 4), '=']
  | a :: b :: c :: rest =>
    symbol (a.toNat / 4) :: symbol (a.toNat % 4 * 16 + b.toNat / 16)
      :: symbol (b.toNat % 16 * 4 + c.toNat / 64) :: symbol (c.toNat % 64) :: encode rest

/-! ## Reading -/

/-- Why a text is refused. -/
inductive Fault
  | notAscii
  | leadingPadding
  | foreign
  | paddingWithin
  | excess
  | loneCharacter (count : Nat)
  | paddingMissing
  deriving DecidableEq

/-- The fault in words. -/
def Fault.message : Fault → String
  | .notAscii => "string argument should contain only ASCII characters"
  | .leadingPadding => "Leading padding not allowed"
  | .foreign => "Only base64 data is allowed"
  | .paddingWithin => "Discontinuous padding not allowed"
  | .excess => "Excess data after padding"
  | .loneCharacter count =>
    s!"Invalid base64-encoded string: number of data characters ({count}) "
      ++ "cannot be 1 more than a multiple of 4"
  | .paddingMissing => "Incorrect padding"

/-- The values of the data characters, read on after `count` of them and with `pads` padding signs
    counted towards the group under way; `padded` says that padding has begun. -/
def scan (count pads : Nat) (padded : Bool) : Text → Except Fault (List Nat)
  | [] =>
    if count % 4 = 0 then .ok []
    else if count % 4 = 1 then .error (.loneCharacter count)
    else .error .paddingMissing
  | c :: rest =>
    if c = '=' then
      if count % 4 < 2 then scan count pads true rest
      else if count % 4 + (pads + 1) < 4 then scan count (pads + 1) true rest
      else if rest = [] then .ok []
      else .error .excess
    else
      match value? c with
      | none => .error .foreign
      | some v =>
        if padded then .error .paddingWithin
        else (scan (count + 1) pads false rest).map (v :: ·)

/-- The octets that six-bit values give, four values to three octets. -/
def pack : List Nat → Bytes
  | a :: b :: c :: d :: rest =>
    UInt8.ofNat (a * 4 + b / 16) :: UInt8.ofNat (b % 16 * 16 + c / 4)
      :: UInt8.ofNat (c % 4 * 64 + d) :: pack rest
  | [a, b, c] => [UInt8.ofNat (a * 4 + b / 16), UInt8.ofNat (b % 16 * 16 + c / 4)]
  | [a, b] => [UInt8.ofNat (a * 4 + b / 16)]
  | _ => []

/-- The octet string that a text stands for. A character beyond ASCII is told before all else, and
    padding in front before what follows it. -/
def decode (t : Text) : Except Fault Bytes :=
  if t.any fun c => 128 ≤ c.toNat then .error .notAscii
  else if t.head? = some '=' then .error .leadingPadding
  else (scan 0 0 false t).map pack

end InviteLink.Base64
