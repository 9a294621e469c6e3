import InviteLink.Codec.Positional

set_option autoImplicit false

/-! # The two alphabets of links

Web links use base 58, whose alphabet leaves out the characters that are mistaken for one another
when a link is copied by hand. Internal links use the 42 characters of the alphanumeric QR mode
that survive in an address: space, percent and plus are left out. -/

namespace InviteLink.Codec

/-- Digits and letters without zero, capital O, capital I and small l. -/
def base58 : Codec where
  alphabet := "123456789ABCDEFGHJKLMNPQRSTUVWXYZabcdefghijkmnopqrstuvwxyz".points
  two_le := by decide
  nodup := nodup_points (by decide)

/-- Capital letters, digits and seven signs. -/
def qr : Codec where
  alphabet := "ABCDEFGHIJKLMNOPQRSTUVWXYZ0123456789$*-.:/".points
  two_le := by decide
  nodup := nodup_points (by decide)

end InviteLink.Codec
