import InviteLink.Link.Sharing
import InviteLink.Text.Numeral

set_option autoImplicit false

/-! # Candidates

What a caller offers where a record is expected: nothing, a record, something that names no kind,
or something that states a kind without being a record. Every operation on records is lifted to
candidates here, with the refusals that only a candidate can meet. -/

namespace InviteLink

/-- What is offered as a record. -/
inductive Candidate
  | nothing
  | record (r : Record)
  | bare
  | foreign (kind : ForeignKind)
  deriving DecidableEq

/-- Why an operation on a candidate failed: a refusal, a name that cannot be written, a part that
    the candidate does not have, or a stated kind that cannot be written as a number. -/
inductive Misuse
  | refused (e : Refusal)
  | unwritable (f : SurrogateFault)
  | noSuchPart
  | kindOutOfRange (n : Int)
  | kindNotNumeral (t : Text)
  | kindTooLong (digits : Nat)
  | kindNotNumber
  deriving DecidableEq

/-- The failure in words. -/
def Misuse.message : Misuse → String
  | .refused e => e.message
  | .unwritable f => f.message
  | .noSuchPart => "the candidate has no such part"
  | .kindOutOfRange n => s!"Value out of range: {n}"
  | .kindNotNumeral t =>
    s!"invalid literal for int() with base 10: {String.ofList ((quoted t).toList.take 200)}"
  | .kindTooLong digits =>
    s!"Exceeds the limit ({maxDigits} digits) for integer string conversion: " ++
      s!"value has {digits} digits; use sys.set_int_max_str_digits() to increase the limit"
  | .kindNotNumber => "the stated kind is no number"

/-- What keeps a record from being shared, as the failure of an operation on a candidate. -/
def SharingFault.toMisuse : SharingFault → Misuse
  | .refused e => .refused e
  | .unwritable f => .unwritable f

/-- The kind that a stated kind is equal to. -/
def ForeignKind.kind? : ForeignKind → Option Kind
  | .number n => Kind.ofNumber? n
  | _ => Option.none

/-- Whether a stated kind is zero, the number for no kind. -/
def ForeignKind.isZero : ForeignKind → Bool
  | .number n => n == 0
  | .unknown => true
  | _ => false

/-- The integer that a stated kind is written as: a number within 32 bits, or a numeral of one. -/
def ForeignKind.toNumber (k : ForeignKind) : Except Misuse Int :=
  let bounded (n : Int) : Except Misuse Int :=
    if -0x80000000 ≤ n ∧ n < 0x80000000 then .ok n else .error (.kindOutOfRange n)
  match k with
  | .number n => bounded n
  | .unknown => .ok 0
  | .none => .error .kindNotNumber
  | .text t =>
    match readNumeral t with
    | .ok n => bounded n
    | .error .notNumeral => .error (.kindNotNumeral t)
    | .error (.tooManyDigits count) => .error (.kindTooLong count)

namespace Candidate

/-- The record that is offered; a stated kind that is none of the known ones is refused by
    `refuse`. -/
def toRecord (refuse : ForeignKind → Refusal) : Candidate → Except Misuse Record
  | .record r => .ok r
  | .foreign k =>
    if k.kind?.isSome then .error .noSuchPart else .error (.refused (refuse k))
  | .nothing => .error .noSuchPart
  | .bare => .error .noSuchPart

/-- Refuses everything but a record that may be shared. -/
def requireShareable : Candidate → Traced Misuse Unit
  | .nothing => Traced.fail (.refused .noLink)
  | .bare => Traced.fail (.refused .noKind)
  | .foreign k =>
    if k.isZero then Traced.fail (.refused .noKind)
    else if k.kind?.isSome then Traced.fail .noSuchPart
    else Traced.fail (.refused (.unsupportedKind k))
  | .record r => r.requireShareable.mapFault .refused

/-- The kind that a candidate states. -/
def kind? : Candidate → Option Kind
  | .record r => some r.kind
  | .foreign k => k.kind?
  | _ => Option.none

/-- Whether the candidate is of the kind and may be shared. -/
def isShareableAs (kind : Kind) (c : Candidate) : Traced Misuse Bool :=
  if c.kind? = some kind then
    match c.requireShareable.outcome with
    | .ok () => ⟨c.requireShareable.events, .ok true⟩
    | .error (.refused _) => ⟨c.requireShareable.events, .ok false⟩
    | .error e => ⟨c.requireShareable.events, .error e⟩
  else pure false

/-- The parts of a record. -/
def parts (c : Candidate) : Except Misuse Parts := do
  let r ← c.toRecord .unsupportedKind
  match r.parts? with
  | some p => return p
  | none => throw .noSuchPart

/-- The octets of a record. A kind that is to be written must be a number before all else. -/
def toOctets (includeKind : Bool) (c : Candidate) : Except Misuse Bytes := do
  match includeKind, c with
  | true, .foreign k => let _ ← k.toNumber
  | _, _ => pure ()
  let r ← c.toRecord .unwritableKind
  (r.toOctets includeKind).mapError .unwritable

/-- The internal link of a record, shared or not. -/
def internalLink (c : Candidate) : Except Misuse Text := do
  let r ← c.toRecord .unsupportedKind
  match InternalForm.encode? r with
  | some link => link.mapError .unwritable
  | none => throw .noSuchPart

/-- The web link of a record, shared or not. -/
def webLink (c : Candidate) : Except Misuse Text := do
  let r ← c.toRecord .unsupportedKind
  match WebForm.encode? r with
  | some link => link.mapError .unwritable
  | none => throw .noSuchPart

/-- Runs an operation on a record that may be shared. -/
def shareWith {α : Type} (op : Record → Traced SharingFault α) : Candidate → Traced Misuse α
  | .record r => (op r).mapFault SharingFault.toMisuse
  | c => do
    c.requireShareable
    Traced.fail .noSuchPart

/-- Both links of a record that may be shared. -/
def toLinks : Candidate → Traced Misuse Links := shareWith Record.toLinks

/-- The internal link of a record that may be shared. -/
def toInternalLink : Candidate → Traced Misuse Text := shareWith Record.toInternalLink

/-- The web link of a record that may be shared. -/
def toWebLink : Candidate → Traced Misuse Text := shareWith Record.toWebLink

end Candidate

end InviteLink
