import InviteLink.Text.Basic

set_option autoImplicit false

/-! # Varints

A natural number as groups of seven bits, lowest first; every octet but the last has its high bit
set. Zero groups at the end change nothing but the size, so a number has many forms and one
shortest form, the one that is written. Readers are told the size and judge it themselves. -/

namespace InviteLink.Wire

/-- A number in front of octets, and the count of octets it took. -/
structure Varint where
  value : Nat
  size : Nat
  deriving DecidableEq

namespace Varint

/-- The shortest form of a number. -/
def write (n : Nat) : Bytes :=
  if n < 0x80 then [UInt8.ofNat n] else UInt8.ofNat (n % 0x80 + 0x80) :: write (n / 0x80)
termination_by n
decreasing_by omega

/-- The number in front, in whatever form, and what follows it; `none` if the octets end inside
    the number. -/
def read : Bytes → Option (Varint × Bytes)
  | [] => none
  | b :: rest =>
    if b.toNat < 0x80 then some (⟨b.toNat, 1⟩, rest)
    else (read rest).map fun r => (⟨b.toNat - 0x80 + 0x80 * r.1.value, r.1.size + 1⟩, r.2)

/-- The size is what reading took away, at least one octet. -/
theorem size_add_length {bs rest : Bytes} {v : Varint} (h : read bs = some (v, rest)) :
    0 < v.size ∧ v.size + rest.length = bs.length := by
  induction bs generalizing v with
  | nil => simp [read] at h
  | cons b bs ih =>
    rw [read] at h
    split at h
    · simp only [Option.some.injEq, Prod.mk.injEq] at h
      obtain ⟨rfl, rfl⟩ := h
      exact ⟨Nat.zero_lt_one, Nat.add_comm _ _⟩
    · simp only [Option.map_eq_some_iff, Prod.mk.injEq] at h
      obtain ⟨r, hr, rfl, rfl⟩ := h
      have := ih hr
      simp only [List.length_cons]
      omega

end Varint

end InviteLink.Wire
