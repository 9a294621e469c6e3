import InviteLink.Wire.Token

set_option autoImplicit false

/-! # Fields of a message

The fields of a message in the order of their octets. Groups are passed over whole, so what a
message means is a fold over the fields that are left. A message that breaks off or goes wrong
still has the fields in front of that place, since a fault in one of those comes first. -/

namespace InviteLink.Wire

/-- How deep messages and groups may be nested in one another. -/
def depthLimit : Nat := 100

/-- What follows the groups that are open (innermost first), after their closing marks in turn. No
    more than `budget` groups may be open at a time. -/
def skipGroups (budget : Nat) (stack : List Nat) (bs : Bytes) : Option Bytes :=
  match stack with
  | [] => some bs
  | top :: below =>
    match h : Token.read bs with
    | none => none
    | some (t, rest) =>
      have := Token.read_shortens h
      match t.payload with
      | .opening =>
        if stack.length < budget then skipGroups budget (t.number :: stack) rest else none
      | .closing => if t.number = top then skipGroups budget below rest else none
      | _ => skipGroups budget stack rest
termination_by bs.length

theorem skipGroups_length {budget : Nat} {stack : List Nat} {bs rest : Bytes}
    (h : skipGroups budget stack bs = some rest) : rest.length ≤ bs.length := by
  fun_induction skipGroups budget stack bs <;> grind

/-- The fields of a message, and whether the octets are sound to their end. A field number is
    positive, and a group may be open only while `budget` allows. -/
def scan (budget : Nat) (bs : Bytes) : List Token × Bool :=
  if bs = [] then ([], true)
  else
    match h : Token.read bs with
    | none => ([], false)
    | some (t, rest) =>
      have := Token.read_shortens h
      if t.number = 0 then ([], false)
      else
        match t.payload with
        | .closing => ([], false)
        | .opening =>
          if budget = 0 then ([], false)
          else
            match hs : skipGroups budget [t.number] rest with
            | none => ([], false)
            | some rest' =>
              have := skipGroups_length hs
              scan budget rest'
        | _ => (t :: (scan budget rest).1, (scan budget rest).2)
termination_by bs.length

end InviteLink.Wire
