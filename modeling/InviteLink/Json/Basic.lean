import InviteLink.Text.Scalar

set_option autoImplicit false

/-! # JSON values

The values that requests and replies are made of. Numbers written with a fraction or an exponent
are kept exactly as written; those beyond the largest double, and the words for infinity and for
no number, are all `nonfinite`. These can be read but not written, and so can texts that hold
surrogates. -/

namespace InviteLink

/-- The number `mantissa * 10 ^ exponent`. -/
structure Decimal where
  mantissa : Int
  exponent : Int
  deriving DecidableEq

/-- A JSON value. Members of an object stand in the order of their names' first occurrence. -/
inductive Json
  | null
  | boolean (b : Bool)
  | integer (n : Int)
  | decimal (d : Decimal)
  | nonfinite
  | text (t : Text)
  | list (items : List Json)
  | object (members : List (Text × Json))
  deriving Inhabited

namespace Json

/-- A text given as a string. -/
def ofString (s : String) : Json := .text s.points

/-- The members with one more; a member of the same name gives way in its place. -/
def putMember (name : Text) (value : Json) : List (Text × Json) → List (Text × Json)
  | [] => [(name, value)]
  | (other, old) :: rest =>
    if other = name then (name, value) :: rest else (other, old) :: putMember name value rest

/-- Why a value cannot be written: it holds a number that JSON has no word for, or a text that UTF-8
    cannot write. -/
inductive Flaw
  | nonfinite
  | surrogate
  deriving DecidableEq

/-- The flaw in words. -/
def Flaw.message : Flaw → String
  | .nonfinite => "Out of range float values are not JSON compliant"
  | .surrogate => "surrogates not allowed"

/-- The flaw of a text, if it has one. -/
def flawsOfText (t : Text) : List Flaw := if t.isScalar then [] else [.surrogate]

mutual

/-- The flaws of a value, one for each place that has one. -/
def flaws : Json → List Flaw
  | .nonfinite => [.nonfinite]
  | .text t => flawsOfText t
  | .list items => flawsOfItems items
  | .object members => flawsOfMembers members
  | _ => []

/-- The flaws of the items of a list. -/
def flawsOfItems : List Json → List Flaw
  | [] => []
  | v :: rest => v.flaws ++ flawsOfItems rest

/-- The flaws of the members of an object, their names included. -/
def flawsOfMembers : List (Text × Json) → List Flaw
  | [] => []
  | (name, v) :: rest => flawsOfText name ++ v.flaws ++ flawsOfMembers rest

end

end Json

end InviteLink
