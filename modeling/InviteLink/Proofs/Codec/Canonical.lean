import InviteLink.Codec.Alphabet
import InviteLink.Proofs.Codec.Positional
import Mathlib.Tactic.SplitIfs

set_option autoImplicit false

/-! # A text over the alphabet is the text of its octets

Reading takes each character as one digit, so what is read are digits whose characters are the
text again (`Codec.map_symbol_of_digitsFrom`). The change of base goes back from octets to these
digits, so the octets that a text is read as are written as that text (`Codec.encode_of_decode`):
octets have one text, and two texts are never read as the same octets. A text that is refused is
refused for its first foreign character (`Codec.digitsFrom_eq_error_iff`). -/

namespace InviteLink.Codec

variable (c : Codec)

/-! ## Characters and digits -/

/-- A digit is read from its own character only. -/
theorem symbol_of_digit? {ch : CodePoint} {d : Nat} (h : c.digit? ch = some d) :
    d < c.base ∧ c.symbol d = ch := by
  rw [digit?, List.idxOf?_eq_some_iff] at h
  obtain ⟨hd, hch, -⟩ := h
  have hsymbol : c.symbol d = c.alphabet.get ⟨d, hd⟩ :=
    congrArg c.alphabet.get (Fin.ext (Nat.mod_eq_of_lt hd))
  exact ⟨hd, hsymbol.trans hch⟩

theorem digit?_eq_none_iff {ch : CodePoint} : c.digit? ch = none ↔ ch ∉ c.alphabet := by
  rw [digit?, List.idxOf?_eq_none_iff]

theorem map_symbol_of_digitsFrom {position : Nat} {t : Text} {ds : List Nat}
    (h : c.digitsFrom position t = .ok ds) : ds.map c.symbol = t ∧ ∀ d ∈ ds, d < c.base := by
  induction t generalizing position ds with
  | nil =>
      rw [digitsFrom, Except.ok.injEq] at h
      subst h
      exact ⟨rfl, by simp⟩
  | cons ch t ih =>
      rw [digitsFrom] at h
      cases hdigit : c.digit? ch with
      | none =>
          rw [hdigit] at h
          exact absurd h (by simp)
      | some d =>
          rw [hdigit] at h
          cases hrest : c.digitsFrom (position + 1) t with
          | error f =>
              rw [hrest] at h
              exact absurd h (by simp [Except.map])
          | ok es =>
              rw [hrest] at h
              simp only [Except.map, Except.ok.injEq] at h
              subst h
              obtain ⟨hd, hsymbol⟩ := c.symbol_of_digit? hdigit
              obtain ⟨htext, hes⟩ := ih hrest
              exact ⟨by rw [List.map_cons, hsymbol, htext], List.forall_mem_cons.2 ⟨hd, hes⟩⟩

/-! ## Refused texts -/

/-- A text with one character in front is refused for that character, or for a later one behind a
    character of the alphabet. -/
theorem digitsFrom_cons_eq_error_iff {position : Nat} {ch : CodePoint} {t : Text}
    {f : ForeignCharacter} :
    c.digitsFrom position (ch :: t) = .error f
      ↔ (ch ∉ c.alphabet ∧ f = ⟨ch, position, c.base⟩)
        ∨ (ch ∈ c.alphabet ∧ c.digitsFrom (position + 1) t = .error f) := by
  rw [digitsFrom]
  cases hdigit : c.digit? ch with
  | none =>
      have hch := c.digit?_eq_none_iff.1 hdigit
      simp [hch, eq_comm]
  | some d =>
      have hch : ch ∈ c.alphabet := c.exists_digit?_iff.1 ⟨d, hdigit⟩
      cases c.digitsFrom (position + 1) t <;> simp [hch, Except.map]

/-- The character that a text is refused for is the first one outside the alphabet. -/
theorem digitsFrom_eq_error_iff {position : Nat} {t : Text} {f : ForeignCharacter} :
    c.digitsFrom position t = .error f
      ↔ ∃ before ch after, t = before ++ ch :: after ∧ (∀ x ∈ before, x ∈ c.alphabet)
          ∧ ch ∉ c.alphabet ∧ f = ⟨ch, position + before.length, c.base⟩ := by
  induction t generalizing position with
  | nil => simp [digitsFrom]
  | cons x t ih =>
      rw [c.digitsFrom_cons_eq_error_iff, ih]
      constructor
      · rintro (⟨hx, rfl⟩ | ⟨hx, before, ch, after, rfl, hbefore, hch, rfl⟩)
        · exact ⟨[], x, t, rfl, by simp, hx, rfl⟩
        · refine ⟨x :: before, ch, after, rfl, List.forall_mem_cons.2 ⟨hx, hbefore⟩, hch, ?_⟩
          rw [List.length_cons, Nat.add_right_comm, Nat.add_assoc]
      · rintro ⟨before, ch, after, htext, hbefore, hch, rfl⟩
        cases before with
        | nil =>
            obtain ⟨rfl, rfl⟩ := List.cons.inj htext
            exact Or.inl ⟨hch, rfl⟩
        | cons y before =>
            obtain ⟨rfl, rfl⟩ := List.cons.inj htext
            obtain ⟨hx, hbefore⟩ := List.forall_mem_cons.1 hbefore
            refine Or.inr ⟨hx, before, ch, after, rfl, hbefore, hch, ?_⟩
            rw [List.length_cons, Nat.add_right_comm, Nat.add_assoc]

theorem decode_eq_error_iff {t : Text} {f : ForeignCharacter} :
    c.decode t = .error f
      ↔ ∃ before ch after, t = before ++ ch :: after ∧ (∀ x ∈ before, x ∈ c.alphabet)
          ∧ ch ∉ c.alphabet ∧ f = ⟨ch, before.length, c.base⟩ := by
  have herror : c.decode t = .error f ↔ c.digitsFrom 0 t = .error f := by
    rw [decode]
    cases c.digitsFrom 0 t <;> simp [Except.map]
  rw [herror, digitsFrom_eq_error_iff]
  simp only [Nat.zero_add]

/-! ## Texts that are read -/

theorem map_toNat_map_ofNat {ds : List Nat} (hds : ∀ d ∈ ds, d < 256) :
    (ds.map UInt8.ofNat).map UInt8.toNat = ds := by
  have hdigit : ∀ d ∈ ds, (UInt8.toNat ∘ UInt8.ofNat) d = id d := by
    intro d hd
    rw [Function.comp_apply, UInt8.toNat_ofNat', Nat.mod_eq_of_lt (hds d hd), id]
  rw [List.map_map, List.map_congr_left hdigit, List.map_id]

/-- What is read is written again as it was. -/
theorem encode_of_decode {t : Text} {b : Bytes} (h : c.decode t = .ok b) : c.encode b = t := by
  rw [decode] at h
  cases hdigits : c.digitsFrom 0 t with
  | error f =>
      rw [hdigits] at h
      exact absurd h (by simp [Except.map])
  | ok ds =>
      rw [hdigits] at h
      simp only [Except.map, Except.ok.injEq] at h
      obtain ⟨htext, hds⟩ := c.map_symbol_of_digitsFrom hdigits
      rw [encode, ← h, map_toNat_map_ofNat (rebase_lt c.base (by omega) ds),
        rebase_rebase c.base (by omega), rebase_self c.two_le_base hds, htext]

/-- The octets of a text are those whose text it is. -/
theorem decode_eq_ok_iff {t : Text} {b : Bytes} : c.decode t = .ok b ↔ c.encode b = t := by
  constructor
  · exact c.encode_of_decode
  · rintro rfl
    exact c.decode_encode b

/-! ## Every alphabet -/

/-- The codec over an alphabet has this alphabet and no other. -/
theorem ofAlphabet_eq_ok_iff_alphabet {a : Text} : ofAlphabet a = .ok c ↔ c.alphabet = a := by
  constructor
  · intro h
    unfold ofAlphabet at h
    split_ifs at h
    rw [Except.ok.injEq] at h
    rw [← h]
  · rintro rfl
    rw [ofAlphabet, dif_pos c.two_le, dif_pos c.nodup]

/-- Over every alphabet: the texts that are read are those over the alphabet, any other is refused
    for its first foreign character, and octets are read from their own text only, so no two texts
    are read as the same octets. -/
theorem decode_exact {a : Text} {c : Codec} (h : ofAlphabet a = .ok c) (t : Text) :
    ((∃ b, c.decode t = .ok b) ↔ ∀ ch ∈ t, ch ∈ a)
      ∧ (∀ f, c.decode t = .error f ↔ ∃ before ch after, t = before ++ ch :: after
          ∧ (∀ x ∈ before, x ∈ a) ∧ ch ∉ a ∧ f = ⟨ch, before.length, a.length⟩)
      ∧ (∀ b, c.decode t = .ok b ↔ c.encode b = t)
      ∧ ∀ b t', c.decode t = .ok b → c.decode t' = .ok b → t' = t := by
  obtain rfl := c.ofAlphabet_eq_ok_iff_alphabet.1 h
  refine ⟨c.decode_ok_iff, fun _ => c.decode_eq_error_iff, fun _ => c.decode_eq_ok_iff, ?_⟩
  intro b t' ht ht'
  rw [← c.encode_of_decode ht, ← c.encode_of_decode ht']

/-- A link that is copied by hand may come with a capital I, which base 58 does not have. -/
theorem decode_exact_base58 :
    ofAlphabet base58.alphabet = .ok base58
      ∧ base58.decode "11Iz0".points = .error ⟨'I', 2, 58⟩ := by
  have halphabet := base58.ofAlphabet_eq_ok_iff_alphabet.2 rfl
  refine ⟨halphabet, ((decode_exact halphabet "11Iz0".points).2.1 _).2 ?_⟩
  have hones : (['1', '1'].all fun ch => ch ∈ base58.alphabet) = true := by decide
  exact ⟨['1', '1'], 'I', ['z', '0'], rfl, by simpa using hones, by decide, rfl⟩

end InviteLink.Codec
