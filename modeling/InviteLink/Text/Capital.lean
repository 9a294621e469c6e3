import InviteLink.Text.Basic

set_option autoImplicit false

/-! # Capitals

The capitals of a text, as far as a comparison with a name of ASCII letters needs them: of the
characters beyond ASCII only those are changed whose capitals are ASCII letters, the dotless i, the
long s, the sharp s and the ligatures. -/

namespace InviteLink

/-- The characters beyond ASCII whose capitals are within it. -/
def foldedCapitals : List (Char × String) :=
  [('\u00DF', "SS"), ('\u0131', "I"), ('\u017F', "S"), ('\uFB00', "FF"), ('\uFB01', "FI"),
    ('\uFB02', "FL"), ('\uFB03', "FFI"), ('\uFB04', "FFL"), ('\uFB05', "ST"), ('\uFB06', "ST")]

/-- The capitals of one code point. -/
def capital : CodePoint → Text
  | .char c =>
    if c.toNat < 128 then [c.toUpper]
    else
      match foldedCapitals.lookup c with
      | some letters => letters.points
      | none => [c]
  | .surrogate offset => [.surrogate offset]

/-- The capitals of a text. -/
def capitals (t : Text) : Text := t.flatMap capital

end InviteLink
