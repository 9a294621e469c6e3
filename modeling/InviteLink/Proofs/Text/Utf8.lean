import InviteLink.Text.Utf8
import Mathlib.Tactic.SplitIfs

set_option autoImplicit false

/-! # UTF-8 loses nothing

Reading the octets of one code point takes exactly these octets and gives the code point
(`decodeFrom_encodeChar`), whatever stands behind them; a text follows by induction
(`decode_encode`). The only arithmetic is that a value is its quotient and its remainder by 64. -/

namespace InviteLink

theorem toNat_ofNat_octet {n : Nat} (h : n < 256) : (UInt8.ofNat n).toNat = n := by
  rw [UInt8.toNat_ofNat']
  exact Nat.mod_eq_of_lt h

namespace Utf8

/-! ## One octet -/

/-- A sequence takes an octet that lies in range and is not its last. -/
theorem decodeFrom_push {p : Pending} {n : Nat} (hn : n < 256) (hlow : p.low ≤ n)
    (hhigh : n ≤ p.high) (hmore : p.more ≠ 1) (position : Nat) (rest : Bytes) :
    decodeFrom position (some p) (UInt8.ofNat n :: rest)
      = decodeFrom (position + 1) (some (p.push (UInt8.ofNat n))) rest := by
  rw [decodeFrom, toNat_ofNat_octet hn, if_pos ⟨hlow, hhigh⟩, if_neg hmore]

/-- The last octet of a sequence ends it. -/
theorem decodeFrom_last {p : Pending} {n : Nat} (hn : n < 256) (hlow : p.low ≤ n)
    (hhigh : n ≤ p.high) (hmore : p.more = 1) (position : Nat) (rest : Bytes) :
    decodeFrom position (some p) (UInt8.ofNat n :: rest)
      = (decodeFrom (position + 1) none rest).map
          (Char.ofNat (p.value * 0x40 + n % 0x40) :: ·) := by
  rw [decodeFrom, toNat_ofNat_octet hn, if_pos ⟨hlow, hhigh⟩, if_pos hmore, Pending.push,
    toNat_ofNat_octet hn]

/-! ## The octet in front -/

theorem start_two {n : Nat} (hlow : 0x80 ≤ n) (hhigh : n < 0x800) :
    start (UInt8.ofNat (0xC0 + n / 0x40))
      = .opens ⟨UInt8.ofNat (0xC0 + n / 0x40), 1, n / 0x40, 1, 0x80, 0xBF⟩ := by
  rw [start, toNat_ofNat_octet (by omega), if_neg (by omega), if_neg (by omega), if_pos (by omega),
    Nat.add_sub_cancel_left]

theorem start_three {n : Nat} (hhigh : n < 0x10000) :
    start (UInt8.ofNat (0xE0 + n / 0x1000))
      = .opens ⟨UInt8.ofNat (0xE0 + n / 0x1000), 1, n / 0x1000, 2,
          if 0xE0 + n / 0x1000 = 0xE0 then 0xA0 else 0x80,
          if 0xE0 + n / 0x1000 = 0xED then 0x9F else 0xBF⟩ := by
  rw [start, toNat_ofNat_octet (by omega), if_neg (by omega), if_neg (by omega), if_neg (by omega),
    if_pos (by omega), Nat.add_sub_cancel_left]

theorem start_four {n : Nat} (hhigh : n < 0x110000) :
    start (UInt8.ofNat (0xF0 + n / 0x40000))
      = .opens ⟨UInt8.ofNat (0xF0 + n / 0x40000), 1, n / 0x40000, 3,
          if 0xF0 + n / 0x40000 = 0xF0 then 0x90 else 0x80,
          if 0xF0 + n / 0x40000 = 0xF4 then 0x8F else 0xBF⟩ := by
  rw [start, toNat_ofNat_octet (by omega), if_neg (by omega), if_neg (by omega), if_neg (by omega),
    if_neg (by omega), if_pos (by omega), Nat.add_sub_cancel_left]

/-! ## One code point -/

/-- The octets of a code point are read as the code point, whatever follows them. -/
theorem decodeFrom_encodeChar (position : Nat) (c : Char) (rest : Bytes) :
    decodeFrom position none (encodeChar c ++ rest)
      = (decodeFrom (position + (encodeChar c).length) none rest).map (c :: ·) := by
  have hscalar := toNat_scalar c
  have hc : Char.ofNat c.toNat = c := Char.ofNat_toNat c
  unfold encodeChar
  generalize c.toNat = n at hscalar hc ⊢
  dsimp only
  split_ifs with h1 h2 h3
  · rw [List.singleton_append, decodeFrom, start, toNat_ofNat_octet (by omega)]
    simp only [if_pos h1, hc]
    rfl
  · have hvalue : n / 0x40 * 0x40 + (0x80 + n % 0x40) % 0x40 = n := by omega
    simp only [List.cons_append, List.nil_append]
    rw [decodeFrom, start_two (by omega) h2]
    dsimp only
    rw [decodeFrom_last (by omega) (by simp) (by simp; omega) rfl]
    simp only [hvalue, hc]
    rfl
  · -- the range of the second octet leaves out exactly the short forms and the surrogates
    have hlow : (if 0xE0 + n / 0x1000 = 0xE0 then 0xA0 else 0x80) ≤ 0x80 + n / 0x40 % 0x40 := by
      split <;> omega
    have hhigh : 0x80 + n / 0x40 % 0x40 ≤ if 0xE0 + n / 0x1000 = 0xED then 0x9F else 0xBF := by
      split <;> omega
    have hvalue : (n / 0x1000 * 0x40 + (0x80 + n / 0x40 % 0x40) % 0x40) * 0x40
        + (0x80 + n % 0x40) % 0x40 = n := by omega
    simp only [List.cons_append, List.nil_append]
    rw [decodeFrom, start_three h3]
    dsimp only
    rw [decodeFrom_push (by omega) hlow hhigh (by simp),
      decodeFrom_last (by omega) (by simp [Pending.push]) (by simp [Pending.push]; omega) rfl]
    simp only [Pending.push, toNat_ofNat_octet (show 0x80 + n / 0x40 % 0x40 < 256 by omega), hvalue,
      hc]
    rfl
  · -- here it leaves out the short forms and what lies above the last code point
    have hlow : (if 0xF0 + n / 0x40000 = 0xF0 then 0x90 else 0x80)
        ≤ 0x80 + n / 0x1000 % 0x40 := by
      split <;> omega
    have hhigh : 0x80 + n / 0x1000 % 0x40
        ≤ if 0xF0 + n / 0x40000 = 0xF4 then 0x8F else 0xBF := by
      split <;> omega
    have hvalue : ((n / 0x40000 * 0x40 + (0x80 + n / 0x1000 % 0x40) % 0x40) * 0x40
        + (0x80 + n / 0x40 % 0x40) % 0x40) * 0x40 + (0x80 + n % 0x40) % 0x40 = n := by omega
    simp only [List.cons_append, List.nil_append]
    rw [decodeFrom, start_four (by omega)]
    dsimp only
    rw [decodeFrom_push (by omega) hlow hhigh (by simp),
      decodeFrom_push (by omega) (by simp [Pending.push]) (by simp [Pending.push]; omega)
        (by simp [Pending.push]),
      decodeFrom_last (by omega) (by simp [Pending.push]) (by simp [Pending.push]; omega) rfl]
    simp only [Pending.push, toNat_ofNat_octet (show 0x80 + n / 0x1000 % 0x40 < 256 by omega),
      toNat_ofNat_octet (show 0x80 + n / 0x40 % 0x40 < 256 by omega), hvalue, hc]
    rfl

/-! ## Round trip -/

theorem decodeFrom_encode (position : Nat) (t : ScalarText) :
    decodeFrom position none (encode t) = .ok t := by
  induction t generalizing position with
  | nil => rfl
  | cons c t ih =>
      rw [encode, List.flatMap_cons, decodeFrom_encodeChar]
      have hrest := ih (position + (encodeChar c).length)
      rw [encode] at hrest
      rw [hrest, Except.map]

/-- What is written is read back. -/
theorem decode_encode (t : ScalarText) : decode (encode t) = .ok t := decodeFrom_encode 0 t

theorem encodeChar_ne_nil (c : Char) : encodeChar c ≠ [] := by
  unfold encodeChar
  dsimp only
  split_ifs <;> simp

/-- Only the empty text takes no octets. -/
theorem encode_eq_nil_iff {t : ScalarText} : encode t = [] ↔ t = [] := by
  cases t with
  | nil => simp [encode]
  | cons c t => simp [encode, encodeChar_ne_nil c]

end Utf8

end InviteLink
