import InviteLink.Text.Utf8

set_option autoImplicit false

/-! # The encoding of JSON text

JSON text starts with an ASCII character, so the zeros among its first octets show how it is
encoded: UTF-8, or UTF-16 or UTF-32 in either octet order. A byte order mark in front decides the
same and is dropped. All of them let surrogates pass, which no encoding proper does: a surrogate
stands where it stood, unless it makes a pair in UTF-16. -/

namespace InviteLink.Json

/-- An encoding of text. -/
inductive Encoding
  | utf8
  | utf16 (bigEndian : Bool)
  | utf32 (bigEndian : Bool)
  deriving DecidableEq

/-- The encoding of octets, and the octets without their byte order mark. -/
def detectEncoding (bs : Bytes) : Encoding × Bytes :=
  match bs with
  | 0x00 :: 0x00 :: 0xFE :: 0xFF :: rest => (.utf32 true, rest)
  | 0xFF :: 0xFE :: 0x00 :: 0x00 :: rest => (.utf32 false, rest)
  | 0xFE :: 0xFF :: rest => (.utf16 true, rest)
  | 0xFF :: 0xFE :: rest => (.utf16 false, rest)
  | 0xEF :: 0xBB :: 0xBF :: rest => (.utf8, rest)
  | a :: b :: c :: d :: _ =>
    if a = 0 then (if b = 0 then .utf32 true else .utf16 true, bs)
    else if b = 0 then (if c = 0 ∧ d = 0 then .utf32 false else .utf16 false, bs)
    else (.utf8, bs)
  | [a, b] =>
    if a = 0 then (.utf16 true, bs) else if b = 0 then (.utf16 false, bs) else (.utf8, bs)
  | _ => (.utf8, bs)

/-- Whether a unit is the first half of a surrogate pair. -/
def isHighSurrogate (n : Nat) : Bool := 0xD800 ≤ n && n ≤ 0xDBFF

/-- Whether a unit is the second half of a surrogate pair. -/
def isLowSurrogate (n : Nat) : Bool := 0xDC00 ≤ n && n ≤ 0xDFFF

/-- The code point of a surrogate pair. -/
def joinSurrogates (high low : Nat) : Nat := 0x10000 + (high - 0xD800) * 0x400 + (low - 0xDC00)

/-- Whether three octets are a surrogate, written as other code points of its size are. -/
def isSurrogateTriple (a b c : UInt8) : Bool :=
  a == 0xED && 0xA0 ≤ b.toNat && b.toNat ≤ 0xBF && 0x80 ≤ c.toNat && c.toNat ≤ 0xBF

/-- The surrogate that three octets are. -/
def ofSurrogateTriple (b c : UInt8) : CodePoint :=
  CodePoint.ofNat (0xD000 + b.toNat % 0x40 * 0x40 + c.toNat % 0x40)

/-- The octets up to the first surrogate, and the text that the octets from there on spell. -/
def utf8Runs : Bytes → Bytes × Option Text
  | a :: b :: c :: rest =>
    if isSurrogateTriple a b c then
      ([], do
        let run ← (Utf8.decode (utf8Runs rest).1).toOption
        let more ← (utf8Runs rest).2
        return ofSurrogateTriple b c :: run.map .char ++ more)
    else (a :: (utf8Runs (b :: c :: rest)).1, (utf8Runs (b :: c :: rest)).2)
  | rest => (rest, some [])

/-- The text of UTF-8 octets. -/
def ofUtf8 (bs : Bytes) : Option Text := do
  let run ← (Utf8.decode (utf8Runs bs).1).toOption
  let more ← (utf8Runs bs).2
  return run.map .char ++ more

/-- The octets in groups of `size`, each as a number; `none` if the last group is short. -/
def units (size : Nat) (bigEndian : Bool) (bs : Bytes) : Option (List Nat) :=
  if bs.length % size = 0 then
    some ((List.range (bs.length / size)).map fun i =>
      let group := ((bs.drop (i * size)).take size).map UInt8.toNat
      (if bigEndian then group else group.reverse).foldl (fun n d => n * 0x100 + d) 0)
  else none

/-- The text of 16-bit units. -/
def ofUnits16 : List Nat → Text
  | [] => []
  | [n] => [CodePoint.ofNat n]
  | n :: m :: rest =>
    if isHighSurrogate n && isLowSurrogate m then
      CodePoint.ofNat (joinSurrogates n m) :: ofUnits16 rest
    else CodePoint.ofNat n :: ofUnits16 (m :: rest)

/-- The text that octets hold; `none` if they are ill-formed in the encoding they show. -/
def decodeText (bs : Bytes) : Option Text :=
  match detectEncoding bs with
  | (.utf8, rest) => ofUtf8 rest
  | (.utf16 bigEndian, rest) => (units 2 bigEndian rest).map ofUnits16
  | (.utf32 bigEndian, rest) =>
    (units 4 bigEndian rest).bind fun ns =>
      if ns.all (· < 0x110000) then some (ns.map CodePoint.ofNat) else none

end InviteLink.Json
