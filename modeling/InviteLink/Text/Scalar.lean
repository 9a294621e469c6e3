import InviteLink.Text.Hex

set_option autoImplicit false

/-! # Texts that can be written

UTF-8 writes characters and no surrogates, so a text that is to be written in it is first taken for
a text of characters. One that holds surrogates is refused for the first run of them. -/

namespace InviteLink

/-- Surrogates where only characters can be written: where the first run of them begins, the first
    surrogate, and how many make up the run. -/
structure SurrogateFault where
  position : Nat
  first : Fin 0x800
  size : Nat
  deriving DecidableEq

/-- A run of one surrogate names it, a longer one its first and last position. -/
def SurrogateFault.message (f : SurrogateFault) : String :=
  let spot :=
    if f.size = 1 then
      s!"character '\\u{String.ofList (hexDigits .lower 4 (0xD800 + f.first))}' "
        ++ s!"in position {f.position}"
    else s!"characters in position {f.position}-{f.position + f.size - 1}"
  s!"'utf-8' codec can't encode {spot}: surrogates not allowed"

/-- The characters of a text whose first code point stands at `position`. -/
def scalarsFrom (position : Nat) : Text → Except SurrogateFault ScalarText
  | [] => .ok []
  | .char c :: rest => (scalarsFrom (position + 1) rest).map (c :: ·)
  | .surrogate first :: rest =>
    .error ⟨position, first, 1 + (rest.takeWhile CodePoint.isSurrogate).length⟩

/-- The characters of a text, or the first surrogates in it. -/
def Text.scalars (t : Text) : Except SurrogateFault ScalarText := scalarsFrom 0 t

/-- Whether a text is one of characters only. -/
def Text.isScalar (t : Text) : Bool := t.all fun c => !c.isSurrogate

end InviteLink
