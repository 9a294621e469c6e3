import InviteLink.Codec.Alphabet
import InviteLink.Proofs.Codec.Positional
import Mathlib.Algebra.Order.Floor.Div
import Mathlib.Algebra.Order.Floor.Semiring
import Mathlib.GroupTheory.GroupAction.Ring

set_option autoImplicit false

/-! # How long a text is

When `q` digits in base `a` never need more than `p` digits in base `b`, a change of base takes
`n` digits to `p * n / q` at most, rounded up (`length_rebase_le`). One comparison of powers is
enough for all lengths, as it can be raised to any power (`pow_le_pow_ceilDiv`). A zero in front is
carried over as one digit, which is no more than the digits that it may take. -/

namespace InviteLink

/-! ## Numbers below a power -/

theorem valueOf_lt_pow {a : Nat} (ha : 2 ≤ a) {ds : List Nat} (hds : ∀ d ∈ ds, d < a) :
    valueOf a ds < a ^ ds.length := by
  rw [valueOf_eq_ofDigits, ← List.length_reverse]
  refine Nat.ofDigits_lt_base_pow_length ha ?_
  intro d hd
  exact hds d (List.mem_reverse.1 hd)

theorem length_digitsUp_le_iff {b : Nat} (hb : 2 ≤ b) {n k : Nat} :
    (digitsUp b n).length ≤ k ↔ n < b ^ k := by
  rw [digitsUp_eq_digits hb, Nat.digits_length_le_iff hb]

/-- A comparison of two powers at one length is one at every length. -/
theorem pow_le_pow_ceilDiv {a b p q : Nat} (hb : 0 < b) (hq : 0 < q) (h : a ^ q ≤ b ^ p) (n : Nat) :
    a ^ n ≤ b ^ ((p * n) ⌈/⌉ q) := by
  have hround : p * n ≤ q * ((p * n) ⌈/⌉ q) := (ceilDiv_le_iff_le_mul hq).1 le_rfl
  rw [← Nat.pow_le_pow_iff_left hq.ne']
  calc (a ^ n) ^ q = (a ^ q) ^ n := Nat.pow_right_comm a n q
    _ ≤ (b ^ p) ^ n := Nat.pow_le_pow_left h n
    _ = b ^ (p * n) := (Nat.pow_mul b p n).symm
    _ ≤ b ^ (q * ((p * n) ⌈/⌉ q)) := Nat.pow_le_pow_right hb hround
    _ = (b ^ ((p * n) ⌈/⌉ q)) ^ q := by rw [← Nat.pow_mul, Nat.mul_comm]

/-! ## Change of base -/

/-- A digit that is carried over as it is takes no more room than one that is not. -/
theorem add_ceilDiv_le {p q : Nat} (hq : 0 < q) (hqp : q ≤ p) (z m : Nat) :
    z + (p * m) ⌈/⌉ q ≤ (p * (z + m)) ⌈/⌉ q := by
  have hround : p * z + p * m ≤ q * ((p * (z + m)) ⌈/⌉ q) := by
    rw [← Nat.mul_add]
    exact (ceilDiv_le_iff_le_mul hq).1 le_rfl
  have hcarried : q * z ≤ p * z := Nat.mul_le_mul_right z hqp
  have hfirst : z ≤ (p * (z + m)) ⌈/⌉ q := Nat.le_of_mul_le_mul_left (by omega) hq
  have hrest : (p * m) ⌈/⌉ q ≤ (p * (z + m)) ⌈/⌉ q - z := by
    rw [ceilDiv_le_iff_le_mul hq, Nat.mul_sub]
    omega
  omega

theorem length_rebase_le {a b p q : Nat} (ha : 2 ≤ a) (hb : 2 ≤ b) (hq : 0 < q) (hqp : q ≤ p)
    (h : a ^ q ≤ b ^ p) {ds : List Nat} (hds : ∀ d ∈ ds, d < a) :
    (rebase a b ds).length ≤ (p * ds.length) ⌈/⌉ q := by
  have hlength : (ds.takeWhile (· == 0)).length + (ds.dropWhile (· == 0)).length = ds.length := by
    rw [← List.length_append, List.takeWhile_append_dropWhile]
  have hdigits : (digitsUp b (valueOf a ds)).length
      ≤ (p * (ds.dropWhile (· == 0)).length) ⌈/⌉ q := by
    rw [length_digitsUp_le_iff hb, ← valueOf_dropWhile_zero]
    refine Nat.lt_of_lt_of_le (valueOf_lt_pow ha ?_) (pow_le_pow_ceilDiv (by omega) hq h _)
    intro d hd
    exact hds d ((List.dropWhile_sublist _).subset hd)
  rw [rebase, List.length_append, List.length_reverse, ← hlength]
  exact Nat.le_trans (Nat.add_le_add_left hdigits _) (add_ceilDiv_le hq hqp _ _)

/-! ## Codecs -/

namespace Codec

theorem length_encode_le (c : Codec) {p q : Nat} (hq : 0 < q) (hqp : q ≤ p)
    (h : 256 ^ q ≤ c.base ^ p) (data : Bytes) :
    (c.encode data).length ≤ (p * data.length) ⌈/⌉ q := by
  have hlt : ∀ d ∈ data.map UInt8.toNat, d < 256 := by
    intro d hd
    obtain ⟨octet, -, rfl⟩ := List.mem_map.1 hd
    exact octet.toNat_lt
  have hlength : (data.map UInt8.toNat).length = data.length := List.length_map _
  rw [encode, List.length_map, ← hlength]
  exact length_rebase_le (by decide) c.two_le_base hq hqp h hlt

/-- Two octets take three characters of the QR alphabet at most. -/
theorem length_qr_encode_le (data : Bytes) : (qr.encode data).length ≤ (3 * data.length) ⌈/⌉ 2 :=
  qr.length_encode_le (by decide) (by decide) (by decide) data

/-- Five octets take seven characters of base 58 at most. -/
theorem length_base58_encode_le (data : Bytes) :
    (base58.encode data).length ≤ (7 * data.length) ⌈/⌉ 5 :=
  base58.length_encode_le (by decide) (by decide) (by decide) data

end Codec

end InviteLink
