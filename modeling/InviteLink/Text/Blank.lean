import InviteLink.Text.Basic

set_option autoImplicit false

/-! # Blanks

Two sets of blanks are in use: the white space of the Unicode standard, which may surround a
number, and the wider set that is taken off both ends of a pasted link, which has the four
information separators as well. -/

namespace InviteLink

/-- White space by the Unicode property of that name. -/
def isWhiteSpace (c : CodePoint) : Bool :=
  let n := c.toNat
  (0x09 ≤ n && n ≤ 0x0D) || n == 0x20 || n == 0x85 || n == 0xA0 || n == 0x1680
    || (0x2000 ≤ n && n ≤ 0x200A) || n == 0x2028 || n == 0x2029 || n == 0x202F || n == 0x205F
    || n == 0x3000

/-- White space or one of the information separators 1C to 1F. -/
def isBlank (c : CodePoint) : Bool := isWhiteSpace c || (0x1C ≤ c.toNat && c.toNat ≤ 0x1F)

/-- The text without the run of `drop` characters at either end. -/
def trimBoth (drop : CodePoint → Bool) (t : Text) : Text :=
  ((t.dropWhile drop).reverse.dropWhile drop).reverse

/-- The text without the blanks at either end. -/
def strip (t : Text) : Text := trimBoth isBlank t

end InviteLink
