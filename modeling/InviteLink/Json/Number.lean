import InviteLink.Json.Basic

set_option autoImplicit false

/-! # Decimals as doubles

A number with a fraction or an exponent means the double nearest to it. Two questions are asked
of that double: whether it is finite, and whether it is one of a few small integers. Both are
answered on the exact decimal, by comparing it with the ends of the interval that rounds there. -/

namespace InviteLink.Decimal

/-- The number of decimal digits of `n`; zero has one. -/
def digitCount (n : Nat) : Nat := (Nat.toDigits 10 n).length

/-- The size as a fraction, for an exponent that is not absurd. -/
def sizeFraction (d : Decimal) : Nat × Nat :=
  if 0 ≤ d.exponent then (d.mantissa.natAbs * Nat.pow 10 d.exponent.toNat, 1)
  else (d.mantissa.natAbs, Nat.pow 10 (-d.exponent).toNat)

/-- The exponent of the digit in front, counted from the point. -/
def magnitude (d : Decimal) : Int := digitCount d.mantissa.natAbs + d.exponent

/-- Whether the nearest double is an infinity: the size reaches the middle between the largest
    double and the next power of two. -/
def overflows (d : Decimal) : Bool :=
  if d.mantissa = 0 then false
  else if 310 < d.magnitude then true
  else if d.magnitude < 300 then false
  else
    let (num, den) := d.sizeFraction
    (Nat.pow 2 1024 - Nat.pow 2 970) * den ≤ num

/-- Whether the size lies between `lowNum / 2 ^ shift` and `highNum / 2 ^ shift`, ends included.
    -/
def sizeWithin (lowNum highNum shift : Nat) (d : Decimal) : Bool :=
  let (num, den) := d.sizeFraction
  lowNum * den ≤ num * Nat.pow 2 shift && num * Nat.pow 2 shift ≤ highNum * den

/-- The integer from zero to three that is the nearest double, if it is one of these. An even
    neighbour takes the middle between two doubles, so the ends of each interval belong to it. -/
def smallInteger? (d : Decimal) : Option Nat :=
  if d.mantissa = 0 || d.magnitude < -330 then some 0
  else if 2 < d.magnitude then none
  else if d.sizeWithin 0 1 1075 then some 0
  else if d.mantissa < 0 then none
  else if d.sizeWithin (Nat.pow 2 54 - 1) (Nat.pow 2 54 + 2) 54 then some 1
  else if d.sizeWithin (Nat.pow 2 54 - 1) (Nat.pow 2 54 + 2) 53 then some 2
  else if d.sizeWithin (3 * Nat.pow 2 52 - 1) (3 * Nat.pow 2 52 + 1) 52 then some 3
  else none

end InviteLink.Decimal
