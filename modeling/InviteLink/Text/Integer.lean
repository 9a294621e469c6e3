import InviteLink.Text.Blank
import InviteLink.Text.Digit

set_option autoImplicit false

/-! # Integers in text

The integer that a setting or a form field spells. A plain numeral is a minus or nothing, and then
decimal digits with no zero in front of another digit. Any other text is brought to this form as
far as it goes: white space around it and a plus are taken off and a minus is set aside, then
zeros in front, a fraction of zeros and single underscores go, one after the other. Each step
looks only for what it takes off, so a minus may also stand behind the zeros in front.

A plain numeral has at most 4300 characters, so the value is found in bounded time whatever the
text. A text that starts with a longer one is told so; one that is only brought to a longer one is
refused as no numeral. -/

namespace InviteLink

/-! ## Plain numerals -/

/-- The most characters that a plain numeral may have, its sign included. -/
def maxPlainLength : Nat := 4300

/-- The number that digits spell when none but a single zero starts with a zero. -/
def readNatural? : Text → Option Nat
  | [] => none
  | c :: rest => if c = '0' ∧ rest ≠ [] then none else readDigits decimalDigit? 0 (c :: rest)

/-- The integer that a plain numeral spells. -/
def readPlain? (t : Text) : Option Int :=
  if maxPlainLength < t.length then none
  else
    match t with
    | '-' :: digits => (readNatural? digits).map fun n => -(Int.ofNat n)
    | digits => (readNatural? digits).map Int.ofNat

/-- Whether the text starts with a sign and digits that are more than a plain numeral may have. -/
def startsTooLong (t : Text) : Bool :=
  let sign := if t.head? = some '-' then 1 else 0
  let digits := (t.drop sign).takeWhile fun c => (decimalDigit? c).isSome
  digits.head? != some '0' && maxPlainLength < sign + digits.length

/-! ## Bringing a text to plain form -/

/-- The text without a plus in front, unless a minus follows it. -/
def dropPlus : Text → Text
  | '+' :: rest => if rest.head? = some '-' then '+' :: rest else rest
  | t => t

/-- The text without the zeros in front and the underscores among them; the last character of that
    run stays when the text ends there or a point follows. -/
def dropLeadingZeros (t : Text) : Text :=
  if t.head? = some '0' then
    let skip := fun c : CodePoint => c == '0' || c == '_'
    let run := t.takeWhile skip
    let rest := t.dropWhile skip
    if rest.head? = none ∨ rest.head? = some '.' then run.drop (run.length - 1) ++ rest else rest
  else t

/-- The text without a final point and the zeros, one or more, that alone follow it. -/
def dropZeroFraction (t : Text) : Text :=
  match cut '.' t with
  | (whole, some fraction) => if fraction ≠ [] ∧ fraction.all (· == '0') then whole else t
  | (_, none) => t

/-- What follows the sign, in plain form as far as it has one. -/
def plainMagnitude? (t : Text) : Option Text :=
  dropUnderscores? (dropZeroFraction (dropLeadingZeros t))

/-- The text in plain form, as far as it has one. -/
def plainForm? (t : Text) : Option Text :=
  match dropPlus (trimBoth isWhiteSpace t) with
  | '-' :: digits => (plainMagnitude? digits).map ('-' :: ·)
  | digits => plainMagnitude? digits

/-! ## Integers -/

/-- Why a text spells no integer. -/
inductive IntegerFault
  | notNumeral
  | tooLong
  deriving DecidableEq

/-- The integer that the text spells. -/
def readInteger (t : Text) : Except IntegerFault Int :=
  if startsTooLong t then .error .tooLong
  else
    match (plainForm? t).bind readPlain? with
    | some n => .ok n
    | none => .error .notNumeral

end InviteLink
