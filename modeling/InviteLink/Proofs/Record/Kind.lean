import InviteLink.Proofs.Record.Serial

set_option autoImplicit false

/-! # Octets under a given kind

A kind that is given on reading overrides the one that the octets state, so nothing vouches for it.
But the octets of a record hold the inner message of one kind only. Under the other kind there is
nothing in them (`Record.ofOctets_other`), and under a number that is no kind they are refused
(`Record.refusedAs_ofOctets_no_kind`), as they are if they leave the kind out and none is given. -/

namespace InviteLink

open Wire

/-- The other kind. -/
def Kind.other : Kind → Kind
  | .contact => .group
  | .group => .contact

theorem Kind.ofNumber?_eq_none_iff {n : Int} : Kind.ofNumber? n = none ↔ n ≠ 1 ∧ n ≠ 2 := by
  unfold ofNumber?
  split_ifs <;> simp_all

namespace Record

/-- The record of a kind that has a name at most, and no keys. -/
def keyless (kind : Kind) (name : Text) : Record :=
  match kind with
  | .contact => .contact { displayName := name }
  | .group => .group { displayName := name }

variable {includeKind : Bool} {r : Record} {bs : Bytes}

/-- The octets of a record hold nothing for the other kind. -/
theorem ofOctets_other (h : r.toOctets includeKind = .ok bs) :
    Record.ofOctets (some r.kind.other.number) bs = pure (keyless r.kind.other []) := by
  obtain ⟨name, -, rfl⟩ := toOctets_eq_ok_iff.1 h
  rw [ofOctets, InviteMessage.read_write (r.fits_messageNamed includeKind name)]
  cases r <;> rfl

/-- Octets that are read under a number of no kind are refused: zero means that the kind is missing,
    and any other number that there is no such kind. -/
theorem refusedAs_ofOctets_no_kind (h : r.toOctets includeKind = .ok bs) {n : Int}
    (hn : Kind.ofNumber? n = none) :
    (Record.ofOctets (some n) bs).RefusedAs (if n = 0 then .missing else .invalid) := by
  obtain ⟨name, -, rfl⟩ := toOctets_eq_ok_iff.1 h
  rw [ofOctets, InviteMessage.read_write (r.fits_messageNamed includeKind name)]
  show (Traced.ofExcept (ofMessage n _)).RefusedAs _
  rw [Traced.refusedAs_ofExcept, ofMessage, hn]
  refine ⟨_, rfl, ?_⟩
  split_ifs <;> rfl

/-- Octets that leave the kind out lack it if none is given. -/
theorem refusedAs_ofOctets_kindless (h : r.toOctets false = .ok bs) :
    (Record.ofOctets none bs).RefusedAs .missing := by
  obtain ⟨name, -, rfl⟩ := toOctets_eq_ok_iff.1 h
  rw [refusedAs_missing_ofOctets_iff]
  exact ⟨_, InviteMessage.read_write (r.fits_messageNamed false name), by cases r <;> rfl⟩

end Record

end InviteLink
