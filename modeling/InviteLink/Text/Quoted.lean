import InviteLink.Text.Hex
import InviteLink.Text.Printable

set_option autoImplicit false

/-! # Quoted text

The form in which a piece of input is shown inside a message: between quotes, with everything
that would not show as itself escaped. Single quotes are used unless the text holds one and holds
no double quote. -/

namespace InviteLink

/-- The mark that a text is quoted with. -/
def quoteMark (t : Text) : Char :=
  if t.contains '\x27' && !t.contains '\x22' then '\x22' else '\x27'

/-- The escape of a code point by its number. -/
def numberEscape (n : Nat) : ScalarText :=
  if n < 0x100 then '\\' :: 'x' :: hexDigits .lower 2 n
  else if n < 0x10000 then '\\' :: 'u' :: hexDigits .lower 4 n
  else '\\' :: 'U' :: hexDigits .lower 8 n

/-- One code point between quotes of the given mark. -/
def quotePoint (mark : Char) : CodePoint → ScalarText
  | .char c =>
    if c = mark || c = '\\' then ['\\', c]
    else if c = '\n' then ['\\', 'n']
    else if c = '\r' then ['\\', 'r']
    else if c = '\t' then ['\\', 't']
    else if isPrintable c then [c]
    else numberEscape c.toNat
  | .surrogate offset => numberEscape (0xD800 + offset)

/-- The text between quotes. -/
def quoted (t : Text) : String :=
  let mark := quoteMark t
  String.ofList (mark :: t.flatMap (quotePoint mark) ++ [mark])

end InviteLink
