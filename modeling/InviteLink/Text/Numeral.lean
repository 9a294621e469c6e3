import InviteLink.Text.Blank
import InviteLink.Text.Digit

set_option autoImplicit false

/-! # Numerals

A numeral is a sign or nothing and then digits of any script, single underscores among them, with
white space around the whole. Zeros in front are digits like any others. The digits are counted
before anything behind them is looked at, so a numeral of too many digits is told from a text that
is none even if something else follows it. -/

namespace InviteLink

/-- Why a text is not read as a numeral. -/
inductive NumeralFault
  | notNumeral
  | tooManyDigits (count : Nat)
  deriving DecidableEq

/-- The most digits that a numeral may have. -/
def maxDigits : Nat := 4300

/-- The number that digits and underscores spell, when only white space follows them. -/
def readGrouped (t : Text) : Except NumeralFault Nat :=
  let grouped := fun c : CodePoint => c == '_' || (anyDecimalDigit? c).isSome
  match dropUnderscores? (t.takeWhile grouped) with
  | none => .error .notNumeral
  | some digits =>
    if maxDigits < digits.length then .error (.tooManyDigits digits.length)
    else if digits = [] ∨ (t.dropWhile grouped).all isWhiteSpace = false then .error .notNumeral
    else
      match readDigits anyDecimalDigit? 0 digits with
      | some n => .ok n
      | none => .error .notNumeral

/-- The integer that a numeral spells. -/
def readNumeral (t : Text) : Except NumeralFault Int :=
  match t.dropWhile isWhiteSpace with
  | '-' :: rest => (readGrouped rest).map fun n => -(Int.ofNat n)
  | '+' :: rest => (readGrouped rest).map Int.ofNat
  | rest => (readGrouped rest).map Int.ofNat

end InviteLink
