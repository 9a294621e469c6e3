import InviteLink.Text.Basic

set_option autoImplicit false

/-! # Decimal digits

A run of digits spells a number, the first digit weighing most. Which characters are digits is up
to the reader: the ten of ASCII, or those of every script of the Unicode standard (version 14),
where the ten digits of a script follow one another from zero to nine. Underscores may group the
digits. -/

namespace InviteLink

/-! ## Which characters are digits -/

/-- The value of an ASCII digit. -/
def decimalDigit? (c : CodePoint) : Option Nat :=
  if 48 ≤ c.toNat ∧ c.toNat ≤ 57 then some (c.toNat - 48) else none

/-- The zeros of all scripts, in rising order. -/
def zeroDigits : List Nat := [
    0x30, 0x660, 0x6F0, 0x7C0, 0x966, 0x9E6, 0xA66, 0xAE6, 0xB66, 0xBE6, 0xC66, 0xCE6, 0xD66,
    0xDE6, 0xE50, 0xED0, 0xF20, 0x1040, 0x1090, 0x17E0, 0x1810, 0x1946, 0x19D0, 0x1A80, 0x1A90,
    0x1B50, 0x1BB0, 0x1C40, 0x1C50, 0xA620, 0xA8D0, 0xA900, 0xA9D0, 0xA9F0, 0xAA50, 0xABF0,
    0xFF10, 0x104A0, 0x10D30, 0x11066, 0x110F0, 0x11136, 0x111D0, 0x112F0, 0x11450, 0x114D0,
    0x11650, 0x116C0, 0x11730, 0x118E0, 0x11950, 0x11C50, 0x11D50, 0x11DA0, 0x16A60, 0x16AC0,
    0x16B50, 0x1D7CE, 0x1D7D8, 0x1D7E2, 0x1D7EC, 0x1D7F6, 0x1E140, 0x1E2F0, 0x1E950, 0x1FBF0]

/-- The value of a digit of any script. -/
def anyDecimalDigit? (c : CodePoint) : Option Nat :=
  (zeroDigits.find? fun z => z ≤ c.toNat ∧ c.toNat < z + 10).map fun z => c.toNat - z

/-! ## Runs of digits -/

/-- The number that a run of digits spells after `value`. -/
def readDigits (digit? : CodePoint → Option Nat) (value : Nat) : Text → Option Nat
  | [] => some value
  | c :: rest =>
    match digit? c with
    | none => none
    | some n => readDigits digit? (10 * value + n) rest

/-- The text without its underscores, each of which has to stand alone between other characters. -/
def dropUnderscores? (t : Text) : Option Text :=
  if t.head? = some '_' ∨ t.getLast? = some '_' ∨ (.char '_', .char '_') ∈ t.zip t.tail then none
  else some (t.filter (· ≠ '_'))

end InviteLink
