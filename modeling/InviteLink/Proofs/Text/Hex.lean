import InviteLink.Text.Hex
import Mathlib.Tactic.SplitIfs

set_option autoImplicit false

/-! # Hexadecimal digits are read as they are written

Sixteen digits of either case stand for sixteen values (`hexValue?_hexDigit`), so a number is read
from its digits as long as there are enough of them (`hexNumber_hexDigits`). -/

namespace InviteLink

/-- A digit of either case stands for its value. -/
theorem hexValue?_hexDigit (style : HexCase) (d : Nat) :
    hexValue? (hexDigit style d) = some (d % 16) := by
  have hall : ∀ d < 16, hexValue? (hexDigit style d) = some d := by
    cases style <;> decide
  have hmod : hexDigit style d = hexDigit style (d % 16) := by
    simp only [hexDigit, Nat.mod_mod]
  rw [hmod, hall (d % 16) (Nat.mod_lt d (by decide))]

theorem length_hexDigits (style : HexCase) (width n : Nat) :
    (hexDigits style width n).length = width := by
  induction width generalizing n with
  | zero => rfl
  | succ width ih => rw [hexDigits, List.length_append, ih, List.length_singleton]

/-- The number that hexadecimal digits spell, most significant first. -/
def hexNumber (ds : ScalarText) : Nat :=
  ds.foldl (fun n (d : Char) => 16 * n + (hexValue? d).getD 0) 0

/-- A number that takes no more than `width` digits is read from them. -/
theorem hexNumber_hexDigits (style : HexCase) {width n : Nat} (hn : n < Nat.pow 16 width) :
    hexNumber (hexDigits style width n) = n := by
  induction width generalizing n with
  | zero =>
      have hone : Nat.pow 16 0 = 1 := rfl
      rw [hexDigits, hexNumber, List.foldl_nil]
      omega
  | succ width ih =>
      have hpow : Nat.pow 16 (width + 1) = Nat.pow 16 width * 16 := rfl
      have hfront : hexNumber (hexDigits style width (n / 16)) = n / 16 := ih (by omega)
      rw [hexNumber] at hfront ⊢
      rw [hexDigits, List.foldl_append, hfront, List.foldl_cons, List.foldl_nil,
        hexValue?_hexDigit, Option.getD_some]
      omega

end InviteLink
