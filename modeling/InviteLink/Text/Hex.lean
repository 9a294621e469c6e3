import InviteLink.Text.Basic

set_option autoImplicit false

/-! # Hexadecimal digits

Digits are written in the case the caller asks for and read in either. -/

namespace InviteLink

/-- The letters a hexadecimal digit above nine is written with. -/
inductive HexCase
  | lower
  | upper
  deriving DecidableEq

/-- The digit for `d`, which is taken modulo sixteen. -/
def hexDigit (style : HexCase) (d : Nat) : Char :=
  let d := d % 16
  if d < 10 then Char.ofNat (48 + d)
  else match style with
    | .lower => Char.ofNat (87 + d)
    | .upper => Char.ofNat (55 + d)

/-- The value of a hexadecimal digit of either case. -/
def hexValue? (c : CodePoint) : Option Nat :=
  let n := c.toNat
  if 48 ≤ n ∧ n ≤ 57 then some (n - 48)
  else if 65 ≤ n ∧ n ≤ 70 then some (n - 55)
  else if 97 ≤ n ∧ n ≤ 102 then some (n - 87)
  else none

/-- The last `width` hexadecimal digits of `n`, most significant first. -/
def hexDigits (style : HexCase) : (width : Nat) → (n : Nat) → ScalarText
  | 0, _ => []
  | width + 1, n => hexDigits style width (n / 16) ++ [hexDigit style n]

end InviteLink
