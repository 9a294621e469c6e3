import InviteLink.Text.Lowercase.Table

set_option autoImplicit false

/-! # Lower-casing

Full lower-casing of a text. Two characters depart from the simple mapping: a capital I with dot
becomes two code points, and a capital sigma at the end of a word takes its final form. A sigma
ends a word when the nearest character before it that is not ignorable has case, and the nearest
one after it does not. -/

namespace InviteLink

/-! ## Properties -/

/-- Whether `n` lies in one of the ranges. -/
def inRanges (ranges : List (Nat × Nat)) (n : Nat) : Bool :=
  ranges.any fun r => r.1 ≤ n && n ≤ r.2

/-- Whether the character has case and is not ignorable. -/
def isCased (c : CodePoint) : Bool := inRanges casedRanges c.toNat

/-- Whether the character is passed over between a sigma and its neighbours. -/
def isCaseIgnorable (c : CodePoint) : Bool := inRanges caseIgnorableRanges c.toNat

/-- Whether the first character that is not ignorable has case. -/
def startsCased (t : Text) : Bool :=
  match t.find? fun c => !isCaseIgnorable c with
  | some c => isCased c
  | none => false

/-! ## The mapping -/

/-- Whether a run of the mapping covers `n`. -/
def runCovers (n : Nat) (run : Nat × Nat × Nat × Nat) : Bool :=
  run.1 ≤ n && n ≤ run.2.1 && (n - run.1) % run.2.2.1 == 0

/-- The lower-case form of one character that has a single one. -/
def lowerChar (c : CodePoint) : CodePoint :=
  match lowercaseRuns.find? (runCovers c.toNat) with
  | some run => .ofNat (run.2.2.2 + (c.toNat - run.1))
  | none => c

/-- Lower-cases a text that stands after a cased character (`afterCased`) or not. -/
def lowerFrom (afterCased : Bool) : Text → Text
  | [] => []
  | c :: rest =>
    let here : Text :=
      if c = '\u03A3' then [if afterCased && !startsCased rest then '\u03C2' else '\u03C3']
      else if c = '\u0130' then ['i', '\u0307']
      else [lowerChar c]
    here ++ lowerFrom (if isCaseIgnorable c then afterCased else isCased c) rest

/-- The text in lower case. -/
def lower (t : Text) : Text := lowerFrom false t

/-- Whether `t` begins with `lead` when case is disregarded: as many code points as `lead` has,
    lower-cased, are `lead` lower-cased. -/
def hasLead (lead t : Text) : Bool := lower (t.take lead.length) == lower lead

end InviteLink
