import InviteLink.Text.Quoted

set_option autoImplicit false

/-! # Positional codecs

A codec writes an octet string as text over an alphabet, and reads it back. The octets are the
digits of a number in base 256, the characters its digits in the base of the alphabet; zeros in
front, which the number does not show, are carried over one for one. Both directions are the same
change of base (`rebase`), so neither can lose what the other keeps. -/

namespace InviteLink

/-! ## Change of base -/

/-- The digits of `n` in base `b`, least significant first; zero has none, and in a base below two
    there are none at all. -/
def digitsUp (b n : Nat) : List Nat :=
  if _ : n = 0 ∨ b < 2 then [] else n % b :: digitsUp b (n / b)
termination_by n
decreasing_by exact Nat.div_lt_self (by omega) (by omega)

/-- The number that digits in base `b` spell, most significant first. -/
def valueOf (b : Nat) (ds : List Nat) : Nat := ds.foldl (fun n d => n * b + d) 0

/-- Digits in base `a` written in base `b`, both most significant first, with the zeros in front
    carried over one for one. -/
def rebase (a b : Nat) (ds : List Nat) : List Nat :=
  ds.takeWhile (· == 0) ++ (digitsUp b (valueOf a ds)).reverse

/-! ## Alphabets -/

/-- A codec is its alphabet: at least two characters, none twice. -/
structure Codec where
  alphabet : Text
  two_le : 2 ≤ alphabet.length
  nodup : alphabet.Nodup

/-- Why a text is no alphabet. -/
inductive AlphabetFault
  | tooShort
  | repeated
  deriving DecidableEq

/-- The fault in words. -/
def AlphabetFault.message : AlphabetFault → String
  | .tooShort => "alphabet must have at least 2 characters"
  | .repeated => "alphabet contains duplicate characters"

namespace Codec

/-- The codec over an alphabet; that it is too short is told before that a character repeats. -/
def ofAlphabet (t : Text) : Except AlphabetFault Codec :=
  if h : 2 ≤ t.length then
    if hd : t.Nodup then .ok ⟨t, h, hd⟩ else .error .repeated
  else .error .tooShort

/-- The number of characters of the alphabet. -/
def base (c : Codec) : Nat := c.alphabet.length

theorem base_pos (c : Codec) : 0 < c.base := Nat.lt_of_lt_of_le Nat.zero_lt_two c.two_le

/-- The character for digit `d`, which is taken modulo the base. -/
def symbol (c : Codec) (d : Nat) : CodePoint :=
  c.alphabet.get ⟨d % c.base, Nat.mod_lt _ c.base_pos⟩

/-- The digit that a character stands for, if it is in the alphabet. -/
def digit? (c : Codec) (ch : CodePoint) : Option Nat := c.alphabet.idxOf? ch

/-- How the codec shows itself. -/
def describe (c : Codec) : String := s!"BaseNCodec(base={c.base})"

end Codec

/-! ## Writing and reading -/

/-- A character outside the alphabet, where it stands, and the base it is foreign to. -/
structure ForeignCharacter where
  character : CodePoint
  position : Nat
  base : Nat
  deriving DecidableEq

/-- The fault in words. -/
def ForeignCharacter.message (f : ForeignCharacter) : String :=
  s!"invalid character {quoted [f.character]} at position {f.position} for base{f.base}"

namespace Codec

/-- The text for an octet string. -/
def encode (c : Codec) (data : Bytes) : Text :=
  (rebase 256 c.base (data.map UInt8.toNat)).map c.symbol

/-- The digits of a text whose first character stands at `position`, or its first foreign
    character. -/
def digitsFrom (c : Codec) (position : Nat) : Text → Except ForeignCharacter (List Nat)
  | [] => .ok []
  | ch :: rest =>
    match c.digit? ch with
    | none => .error ⟨ch, position, c.base⟩
    | some d => (c.digitsFrom (position + 1) rest).map (d :: ·)

/-- The octet string that a text stands for. -/
def decode (c : Codec) (t : Text) : Except ForeignCharacter Bytes :=
  (c.digitsFrom 0 t).map fun ds => (rebase c.base 256 ds).map UInt8.ofNat

end Codec

end InviteLink
