import InviteLink.Codec.Base64
import InviteLink.Proofs.Outcome

set_option autoImplicit false

/-! # Base 64 loses nothing

Every six-bit value is written as one character that is read as the value and is no padding sign
(`value?_symbol`), so reading goes through what was written group by group (`scan_encode`), and the
octets of a group are put together again from its values (`decode_encode`). -/

namespace InviteLink.Base64

/-! ## One character -/

theorem value?_symbol {v : Nat} (h : v < 64) : value? (symbol v) = some v := by
  have hall : ∀ v < 64, value? (symbol v) = some v := by decide
  exact hall v h

/-- Every character that is written is that of a six-bit value. -/
theorem exists_symbol_eq (v : Nat) : ∃ w < 64, symbol v = symbol w := by
  by_cases h : v < 64
  · exact ⟨v, h, rfl⟩
  · refine ⟨63, by decide, ?_⟩
    rw [symbol, if_neg (by omega), if_neg (by omega), if_neg (by omega), if_neg (by omega)]
    rfl

theorem symbol_ne_padding (v : Nat) : symbol v ≠ '=' := by
  obtain ⟨w, hw, hsymbol⟩ := exists_symbol_eq v
  intro hpad
  have hread := value?_symbol hw
  rw [← hsymbol, hpad] at hread
  exact absurd hread (by simp [value?])

theorem toNat_symbol_lt (v : Nat) : (symbol v).toNat < 128 := by
  have hall : ∀ w < 64, (symbol w).toNat < 128 := by decide
  obtain ⟨w, hw, hsymbol⟩ := exists_symbol_eq v
  rw [hsymbol]
  exact hall w hw

theorem scan_symbol {v : Nat} (h : v < 64) (count : Nat) (rest : Text) :
    scan count 0 false (symbol v :: rest) = (scan (count + 1) 0 false rest).map (v :: ·) := by
  rw [scan, if_neg (symbol_ne_padding v), value?_symbol h]
  rfl

/-! ## Groups -/

/-- The values of three octets are packed into the octets, whatever follows. -/
theorem pack_group (a b c : UInt8) (rest : List Nat) :
    pack (a.toNat / 4 :: (a.toNat % 4 * 16 + b.toNat / 16) :: (b.toNat % 16 * 4 + c.toNat / 64)
      :: c.toNat % 64 :: rest) = a :: b :: c :: pack rest := by
  have hb := b.toNat_lt
  have hc := c.toNat_lt
  have hfirst : a.toNat / 4 * 4 + (a.toNat % 4 * 16 + b.toNat / 16) / 16 = a.toNat := by omega
  have hsecond : (a.toNat % 4 * 16 + b.toNat / 16) % 16 * 16 + (b.toNat % 16 * 4 + c.toNat / 64) / 4
      = b.toNat := by omega
  have hthird : (b.toNat % 16 * 4 + c.toNat / 64) % 4 * 64 + c.toNat % 64 = c.toNat := by omega
  rw [pack, hfirst, hsecond, hthird]
  simp only [UInt8.ofNat_toNat]

/-- Behind two or three values of a group the padding fills the group up, and ends the text. -/
theorem scan_padding {count : Nat} (hcount : count % 4 = 2) :
    scan count 0 false ['=', '='] = .ok [] ∧ scan (count + 1) 0 false ['='] = .ok [] := by
  constructor
  · simp [scan, hcount]
  · have hthree : (count + 1) % 4 = 3 := by omega
    simp [scan, hthree]

/-- What is written for octets is read as values that are packed into the octets again. -/
theorem scan_encode (bs : Bytes) {count : Nat} (hcount : count % 4 = 0) :
    (scan count 0 false (encode bs)).map pack = .ok bs := by
  induction bs using encode.induct generalizing count with
  | case1 => simp [encode, scan, hcount, Except.map, pack]
  | case2 a =>
      have ha := a.toNat_lt
      have hfirst : a.toNat / 4 * 4 + a.toNat % 4 * 16 / 16 = a.toNat := by omega
      rw [encode, scan_symbol (by omega), scan_symbol (by omega), (scan_padding (by omega)).1]
      show Except.ok (pack _) = _
      rw [pack, hfirst, UInt8.ofNat_toNat]
  | case3 a b =>
      have ha := a.toNat_lt
      have hb := b.toNat_lt
      have hfirst : a.toNat / 4 * 4 + (a.toNat % 4 * 16 + b.toNat / 16) / 16 = a.toNat := by omega
      have hsecond : (a.toNat % 4 * 16 + b.toNat / 16) % 16 * 16 + b.toNat % 16 * 4 / 4
          = b.toNat := by omega
      rw [encode, scan_symbol (by omega), scan_symbol (by omega), scan_symbol (by omega),
        (scan_padding (by omega)).2]
      show Except.ok (pack _) = _
      rw [pack, hfirst, hsecond, UInt8.ofNat_toNat, UInt8.ofNat_toNat]
  | case4 a b c rest ih =>
      have ha := a.toNat_lt
      have hb := b.toNat_lt
      have hc := c.toNat_lt
      have hrest := @ih (count + 1 + 1 + 1 + 1) (by omega)
      rw [encode, scan_symbol (by omega), scan_symbol (by omega), scan_symbol (by omega),
        scan_symbol (by omega)]
      cases hscan : scan (count + 1 + 1 + 1 + 1) 0 false (encode rest) with
      | error f =>
          rw [hscan] at hrest
          cases hrest
      | ok vs =>
          rw [hscan] at hrest
          show Except.ok (pack _) = _
          rw [pack_group, Except.ok.inj hrest]

/-! ## Whole texts -/

/-- What is written begins with no padding sign. -/
theorem head?_encode (bs : Bytes) : (encode bs).head? ≠ some '=' := by
  unfold encode
  split <;> simp [symbol_ne_padding]

/-- What is written is ASCII. -/
theorem toNat_lt_of_mem_encode {bs : Bytes} : ∀ ch ∈ encode bs, ch.toNat < 128 := by
  induction bs using encode.induct with
  | case1 => simp [encode]
  | case2 a => simp [encode, toNat_symbol_lt]
  | case3 a b => simp [encode, toNat_symbol_lt]
  | case4 a b c rest ih => simpa [encode, toNat_symbol_lt] using ih

/-- Octets are read as they were written. -/
theorem decode_encode (bs : Bytes) : decode (encode bs) = .ok bs := by
  have hnone : ¬(encode bs).any (fun c => 128 ≤ c.toNat) = true := by
    simp only [List.any_eq_true, decide_eq_true_eq, not_exists, not_and, Nat.not_le]
    exact toNat_lt_of_mem_encode
  rw [decode, if_neg hnone, if_neg (head?_encode bs), scan_encode bs rfl]

/-- Different octets are written differently. -/
theorem encode_injective {bs bs' : Bytes} (h : encode bs = encode bs') : bs = bs' := by
  have hread := decode_encode bs
  rw [h, decode_encode] at hread
  exact (Except.ok.inj hread).symm

end InviteLink.Base64
