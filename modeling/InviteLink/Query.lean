import InviteLink.Text.Scalar
import InviteLink.Text.Utf8

set_option autoImplicit false

/-! # Query text

Pairs of a name and a value as one line of text: names and values are written in UTF-8 with every
octet escaped that is not a letter, a digit or one of four signs, a space as a plus; a name is
joined to its value by an equals sign and the pairs to one another by ampersands. Only texts of
characters have octets in UTF-8, so only these can be written.

Reading is lenient about the shape (pieces without an equals sign, empty pieces, repeated names)
and strict about the octets: what the escapes of each run of ASCII characters give must be UTF-8.
Everything beyond ASCII, surrogates included, stands for itself. -/

namespace InviteLink.Query

/-! ## Writing -/

/-- Whether an octet is written as itself. -/
def isUnreserved (b : UInt8) : Bool :=
  let n := b.toNat
  (65 ≤ n && n ≤ 90) || (97 ≤ n && n ≤ 122) || (48 ≤ n && n ≤ 57)
    || n == 0x5F || n == 0x2E || n == 0x2D || n == 0x7E

/-- One octet of a name or a value. -/
def escapeOctet (b : UInt8) : Text :=
  if isUnreserved b then [CodePoint.ofNat b.toNat]
  else if b.toNat = 0x20 then ['+']
  else .char '%' :: (hexDigits .upper 2 b.toNat).map .char

/-- A name or a value. -/
def escape (t : ScalarText) : Text := (Utf8.encode t).flatMap escapeOctet

/-- A name with its value. -/
def encodePair (p : ScalarText × ScalarText) : Text := escape p.1 ++ .char '=' :: escape p.2

/-- The pairs, in their order. -/
def encode : List (ScalarText × ScalarText) → Text
  | [] => []
  | [p] => encodePair p
  | p :: rest => encodePair p ++ .char '&' :: encode rest

/-- A name and its value as characters; the name is looked at first. -/
def scalarPair (p : Text × Text) : Except SurrogateFault (ScalarText × ScalarText) := do
  let name ← p.1.scalars
  let value ← p.2.scalars
  return (name, value)

/-- The query text of pairs, or the first surrogates in them. -/
def write (pairs : List (Text × Text)) : Except SurrogateFault Text :=
  (pairs.mapM scalarPair).map encode

/-! ## Reading -/

/-- Whether every percent sign is followed by two hexadecimal digits. -/
def wellEscaped : Text → Bool
  | [] => true
  | c :: rest =>
    (c != '%' || match rest with
      | h :: l :: _ => (hexValue? h).isSome && (hexValue? l).isSome
      | _ => false)
      && wellEscaped rest

/-- One step of reading: an octet, written plainly or as an escape, or a code point beyond ASCII.
    -/
inductive Piece
  | octet (b : UInt8)
  | beyond (c : CodePoint)

/-- The pieces of a name or a value. A percent sign that begins no escape stands for itself. -/
def pieces : Text → List Piece
  | '%' :: h :: l :: rest =>
    match hexValue? h, hexValue? l with
    | some a, some b => .octet (UInt8.ofNat (16 * a + b)) :: pieces rest
    | _, _ => .octet 0x25 :: pieces (h :: l :: rest)
  | c :: rest =>
    (if c.toNat < 128 then .octet (UInt8.ofNat c.toNat) else .beyond c) :: pieces rest
  | [] => []

/-- The octets up to the first code point beyond ASCII, and what the pieces from there on give. -/
def joinRuns : List Piece → Bytes × Except Utf8.Fault Text
  | [] => ([], .ok [])
  | .octet b :: rest => (b :: (joinRuns rest).1, (joinRuns rest).2)
  | .beyond c :: rest =>
    ([], do
      let run ← Utf8.decode (joinRuns rest).1
      let more ← (joinRuns rest).2
      return c :: run.map .char ++ more)

/-- A name or a value: a plus is a space, and each run of ASCII characters is read as the UTF-8
    text that its octets spell. -/
def unescape (t : Text) : Except Utf8.Fault Text := do
  let parts := joinRuns (pieces (t.map fun c : CodePoint => if c = '+' then .char ' ' else c))
  let run ← Utf8.decode parts.1
  let more ← parts.2
  return run.map .char ++ more

/-- A name with its value; a piece without an equals sign is a name with an empty value. -/
def decodePair (piece : Text) : Except Utf8.Fault (Text × Text) := do
  let parts := cut '=' piece
  let name ← unescape parts.1
  let value ← unescape (parts.2.getD [])
  return (name, value)

/-- The pairs of a query text, in their order; empty pieces are passed over. -/
def decode (t : Text) : Except Utf8.Fault (List (Text × Text)) :=
  ((t.splitOn (.char '&')).filter (· ≠ [])).mapM decodePair

/-- The pairs without the later ones of a name that came before. -/
def firstOfEachName {α β : Type} [DecidableEq α] : List (α × β) → List (α × β)
  | [] => []
  | p :: rest => p :: (firstOfEachName rest).filter (·.1 ≠ p.1)

end InviteLink.Query
