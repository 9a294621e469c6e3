import InviteLink.Proofs.Text.Utf8

set_option autoImplicit false

/-! # Only UTF-8 is read

The ranges that the octets of a sequence must lie in leave exactly the sequences that are written:
a sequence that is read to its end gives a code point whose octets it is (`encodeChar_two`,
`encodeChar_three`, `encodeChar_four`), so octets that are read are the octets of the text that
they are read as (`encode_of_decode`). Octets are read if and only if some text is written as
them. -/

namespace InviteLink.Utf8

/-! ## Octets of one code point -/

theorem encodeChar_one {b : UInt8} (hb : b.toNat < 0x80) :
    encodeChar (Char.ofNat b.toNat) = [b] := by
  have hvalue : (Char.ofNat b.toNat).toNat = b.toNat := toNat_ofNat_scalar (by omega)
  simp only [encodeChar, hvalue, if_pos hb, UInt8.ofNat_toNat]

theorem encodeChar_two {a b : UInt8} (halow : 0xC2 ≤ a.toNat) (hahigh : a.toNat < 0xE0)
    (hblow : 0x80 ≤ b.toNat) (hbhigh : b.toNat ≤ 0xBF) :
    encodeChar (Char.ofNat ((a.toNat - 0xC0) * 0x40 + b.toNat % 0x40)) = [a, b] := by
  have hvalue := toNat_ofNat_scalar (n := (a.toNat - 0xC0) * 0x40 + b.toNat % 0x40) (by omega)
  have ha : 0xC0 + ((a.toNat - 0xC0) * 0x40 + b.toNat % 0x40) / 0x40 = a.toNat := by omega
  have hb : 0x80 + ((a.toNat - 0xC0) * 0x40 + b.toNat % 0x40) % 0x40 = b.toNat := by omega
  simp only [encodeChar, hvalue]
  rw [if_neg (by omega), if_pos (by omega), ha, hb, UInt8.ofNat_toNat, UInt8.ofNat_toNat]

theorem encodeChar_three {a b c : UInt8} (halow : 0xE0 ≤ a.toNat) (hahigh : a.toNat < 0xF0)
    (hblow : (if a.toNat = 0xE0 then 0xA0 else 0x80) ≤ b.toNat)
    (hbhigh : b.toNat ≤ if a.toNat = 0xED then 0x9F else 0xBF)
    (hclow : 0x80 ≤ c.toNat) (hchigh : c.toNat ≤ 0xBF) :
    encodeChar (Char.ofNat (((a.toNat - 0xE0) * 0x40 + b.toNat % 0x40) * 0x40 + c.toNat % 0x40))
      = [a, b, c] := by
  -- the second octet is in the range of any such octet, and shuts out short forms and surrogates
  have hbrange : 0x80 ≤ b.toNat ∧ b.toNat ≤ 0xBF
      ∧ (a.toNat = 0xE0 → 0xA0 ≤ b.toNat) ∧ (a.toNat = 0xED → b.toNat ≤ 0x9F) := by
    split_ifs at hblow hbhigh <;> omega
  clear hblow hbhigh
  generalize hv : ((a.toNat - 0xE0) * 0x40 + b.toNat % 0x40) * 0x40 + c.toNat % 0x40 = v
  have hvalue : (Char.ofNat v).toNat = v := toNat_ofNat_scalar (by omega)
  have ha : 0xE0 + v / 0x1000 = a.toNat := by omega
  have hb : 0x80 + v / 0x40 % 0x40 = b.toNat := by omega
  have hc : 0x80 + v % 0x40 = c.toNat := by omega
  simp only [encodeChar, hvalue]
  rw [if_neg (by omega), if_neg (by omega), if_pos (by omega), ha, hb, hc]
  simp only [UInt8.ofNat_toNat]

theorem encodeChar_four {a b c d : UInt8} (halow : 0xF0 ≤ a.toNat) (hahigh : a.toNat < 0xF5)
    (hblow : (if a.toNat = 0xF0 then 0x90 else 0x80) ≤ b.toNat)
    (hbhigh : b.toNat ≤ if a.toNat = 0xF4 then 0x8F else 0xBF)
    (hclow : 0x80 ≤ c.toNat) (hchigh : c.toNat ≤ 0xBF)
    (hdlow : 0x80 ≤ d.toNat) (hdhigh : d.toNat ≤ 0xBF) :
    encodeChar (Char.ofNat ((((a.toNat - 0xF0) * 0x40 + b.toNat % 0x40) * 0x40
        + c.toNat % 0x40) * 0x40 + d.toNat % 0x40)) = [a, b, c, d] := by
  have hbrange : 0x80 ≤ b.toNat ∧ b.toNat ≤ 0xBF
      ∧ (a.toNat = 0xF0 → 0x90 ≤ b.toNat) ∧ (a.toNat = 0xF4 → b.toNat ≤ 0x8F) := by
    split_ifs at hblow hbhigh <;> omega
  clear hblow hbhigh
  generalize hv : (((a.toNat - 0xF0) * 0x40 + b.toNat % 0x40) * 0x40 + c.toNat % 0x40) * 0x40
    + d.toNat % 0x40 = v
  have hvalue : (Char.ofNat v).toNat = v := toNat_ofNat_scalar (by omega)
  have ha : 0xF0 + v / 0x40000 = a.toNat := by omega
  have hb : 0x80 + v / 0x1000 % 0x40 = b.toNat := by omega
  have hc : 0x80 + v / 0x40 % 0x40 = c.toNat := by omega
  have hd : 0x80 + v % 0x40 = d.toNat := by omega
  simp only [encodeChar, hvalue]
  rw [if_neg (by omega), if_neg (by omega), if_neg (by omega), ha, hb, hc, hd]
  simp only [UInt8.ofNat_toNat]

/-! ## The octet in front -/

/-- An octet is a code point by itself, begins a sequence of two to four octets, or is refused. -/
theorem start_cases (b : UInt8) :
    (b.toNat < 0x80 ∧ start b = .whole (Char.ofNat b.toNat))
    ∨ (0xC2 ≤ b.toNat ∧ b.toNat < 0xE0
      ∧ start b = .opens ⟨b, 1, b.toNat - 0xC0, 1, 0x80, 0xBF⟩)
    ∨ (0xE0 ≤ b.toNat ∧ b.toNat < 0xF0
      ∧ start b = .opens ⟨b, 1, b.toNat - 0xE0, 2, if b.toNat = 0xE0 then 0xA0 else 0x80,
          if b.toNat = 0xED then 0x9F else 0xBF⟩)
    ∨ (0xF0 ≤ b.toNat ∧ b.toNat < 0xF5
      ∧ start b = .opens ⟨b, 1, b.toNat - 0xF0, 3, if b.toNat = 0xF0 then 0x90 else 0x80,
          if b.toNat = 0xF4 then 0x8F else 0xBF⟩)
    ∨ start b = .invalid := by
  rw [start]
  by_cases h1 : b.toNat < 0x80
  · exact Or.inl ⟨h1, if_pos h1⟩
  rw [if_neg h1]
  by_cases h2 : b.toNat < 0xC2
  · exact Or.inr (Or.inr (Or.inr (Or.inr (if_pos h2))))
  rw [if_neg h2]
  by_cases h3 : b.toNat < 0xE0
  · exact Or.inr (Or.inl ⟨by omega, h3, if_pos h3⟩)
  rw [if_neg h3]
  by_cases h4 : b.toNat < 0xF0
  · exact Or.inr (Or.inr (Or.inl ⟨by omega, h4, if_pos h4⟩))
  rw [if_neg h4]
  by_cases h5 : b.toNat < 0xF5
  · exact Or.inr (Or.inr (Or.inr (Or.inl ⟨by omega, h5, if_pos h5⟩)))
  · exact Or.inr (Or.inr (Or.inr (Or.inr (if_neg h5))))

/-! ## Octets of a sequence -/

variable {p : Pending} {position : Nat} {bs : Bytes} {t : ScalarText}

/-- A sequence that is read on takes an octet in range. -/
theorem exists_push_of_decodeFrom (hmore : p.more ≠ 1)
    (h : decodeFrom position (some p) bs = .ok t) :
    ∃ b rest, bs = b :: rest ∧ p.low ≤ b.toNat ∧ b.toNat ≤ p.high
      ∧ decodeFrom (position + 1) (some (p.push b)) rest = .ok t := by
  cases bs with
  | nil =>
      rw [decodeFrom] at h
      exact absurd h (by simp)
  | cons b rest =>
      rw [decodeFrom, if_neg hmore] at h
      split_ifs at h with hrange
      exact ⟨b, rest, rfl, hrange.1, hrange.2, h⟩

/-- The last octet of a sequence ends a code point, and the text goes on behind it. -/
theorem exists_last_of_decodeFrom (hmore : p.more = 1)
    (h : decodeFrom position (some p) bs = .ok t) :
    ∃ b rest more, bs = b :: rest ∧ p.low ≤ b.toNat ∧ b.toNat ≤ p.high
      ∧ t = Char.ofNat (p.value * 0x40 + b.toNat % 0x40) :: more
      ∧ decodeFrom (position + 1) none rest = .ok more := by
  cases bs with
  | nil =>
      rw [decodeFrom] at h
      exact absurd h (by simp)
  | cons b rest =>
      rw [decodeFrom, if_pos hmore] at h
      split_ifs at h with hrange
      cases hrest : decodeFrom (position + 1) none rest with
      | error f =>
          rw [hrest] at h
          exact absurd h (by simp [Except.map])
      | ok more =>
          rw [hrest, Except.map, Except.ok.injEq] at h
          exact ⟨b, rest, more, rfl, hrange.1, hrange.2, h.symm, hrest⟩

/-- The octets in front of a text that is read are those of its first code point. -/
theorem exists_encodeChar_of_decodeFrom {b : UInt8} {rest : Bytes}
    (h : decodeFrom position none (b :: rest) = .ok t) :
    ∃ c behind more position', b :: rest = encodeChar c ++ behind ∧ t = c :: more
      ∧ decodeFrom position' none behind = .ok more := by
  rw [decodeFrom] at h
  rcases start_cases b with ⟨hb, hstart⟩ | ⟨hlow, hhigh, hstart⟩ | ⟨hlow, hhigh, hstart⟩
    | ⟨hlow, hhigh, hstart⟩ | hstart
  · rw [hstart] at h
    dsimp only at h
    cases hrest : decodeFrom (position + 1) none rest with
    | error f =>
        rw [hrest] at h
        exact absurd h (by simp [Except.map])
    | ok more =>
        rw [hrest, Except.map, Except.ok.injEq] at h
        exact ⟨_, rest, more, position + 1, by rw [encodeChar_one hb]; rfl, h.symm, hrest⟩
  · rw [hstart] at h
    obtain ⟨c, behind, more, rfl, hc, hc', rfl, hmore⟩ := exists_last_of_decodeFrom rfl h
    exact ⟨_, behind, more, _, by rw [encodeChar_two hlow hhigh hc hc']; rfl, rfl, hmore⟩
  · rw [hstart] at h
    obtain ⟨c, rest, rfl, hc, hc', h⟩ := exists_push_of_decodeFrom (by simp) h
    obtain ⟨d, behind, more, rfl, hd, hd', rfl, hmore⟩ := exists_last_of_decodeFrom rfl h
    exact ⟨_, behind, more, _, by rw [Pending.push, encodeChar_three hlow hhigh hc hc' hd hd']; rfl,
      rfl, hmore⟩
  · rw [hstart] at h
    obtain ⟨c, rest, rfl, hc, hc', h⟩ := exists_push_of_decodeFrom (by simp) h
    obtain ⟨d, rest, rfl, hd, hd', h⟩ := exists_push_of_decodeFrom (by simp [Pending.push]) h
    obtain ⟨e, behind, more, rfl, he, he', rfl, hmore⟩ := exists_last_of_decodeFrom rfl h
    exact ⟨_, behind, more, _,
      by rw [Pending.push, Pending.push, encodeChar_four hlow hhigh hc hc' hd hd' he he']; rfl,
      rfl, hmore⟩
  · rw [hstart] at h
    exact absurd h (by simp)

/-! ## Texts -/

theorem encode_of_decodeFrom (h : decodeFrom position none bs = .ok t) : encode t = bs := by
  induction t generalizing position bs with
  | nil =>
      cases bs with
      | nil => rfl
      | cons b rest =>
          obtain ⟨c, behind, more, position', -, htext, -⟩ := exists_encodeChar_of_decodeFrom h
          exact absurd htext (by simp)
  | cons c t ih =>
      cases bs with
      | nil =>
          rw [decodeFrom, Except.ok.injEq] at h
          exact absurd h (by simp)
      | cons b rest =>
          obtain ⟨c', behind, more, position', hocts, htext, hmore⟩ :=
            exists_encodeChar_of_decodeFrom h
          obtain ⟨rfl, rfl⟩ := List.cons.inj htext
          rw [hocts, ← ih hmore, encode, List.flatMap_cons, encode]

/-- Octets are read as a text just when the text is written as them. -/
theorem decode_eq_ok_iff : decode bs = .ok t ↔ encode t = bs := by
  constructor
  · exact encode_of_decodeFrom
  · rintro rfl
    exact decode_encode t

end InviteLink.Utf8
