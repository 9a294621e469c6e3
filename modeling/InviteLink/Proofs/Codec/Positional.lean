import InviteLink.Codec.Positional
import Mathlib.Data.List.Nodup
import Mathlib.Data.List.TakeWhile
import Mathlib.Data.Nat.Digits.Lemmas

set_option autoImplicit false

/-! # A change of base loses nothing

`rebase` keeps two things of its digits: the zeros in front (`takeWhile_rebase`) and the number
that they spell (`valueOf_rebase`). A digit string is determined by these two (`rebase_self`), so a
change of base followed by another is one change (`rebase_rebase`), and the way back gives the
digits again. Codecs inherit this once characters and digits are seen to name one another.

The digits of a number are Mathlib's `Nat.digits`, read from the other end. -/

namespace InviteLink

/-! ## Digits of a number -/

theorem digitsUp_eq_digits {b : Nat} (hb : 2 ≤ b) (n : Nat) : digitsUp b n = Nat.digits b n := by
  induction n using Nat.strong_induction_on with
  | _ n ih =>
      rw [digitsUp]
      split
      · next h =>
          have hn : n = 0 := by omega
          rw [hn, Nat.digits_zero]
      · next h =>
          have hn : 0 < n := by omega
          rw [Nat.digits_def' hb hn, ih (n / b) (Nat.div_lt_self hn hb)]

theorem valueOf_append (b : Nat) (ds : List Nat) (d : Nat) :
    valueOf b (ds ++ [d]) = valueOf b ds * b + d := by
  simp [valueOf, List.foldl_append]

theorem valueOf_eq_ofDigits (b : Nat) (ds : List Nat) :
    valueOf b ds = Nat.ofDigits b ds.reverse := by
  -- from the right, where the digit stands that is added last
  induction ds using List.reverseRecOn with
  | nil => rfl
  | append_singleton ds d ih =>
      rw [valueOf_append, ih, List.reverse_append, List.reverse_singleton, List.singleton_append,
        Nat.ofDigits_cons, Nat.mul_comm, Nat.add_comm]

/-- Zeros in front do not change the number. -/
theorem valueOf_zeros_append (b : Nat) {zeros : List Nat} (hz : ∀ d ∈ zeros, d = 0)
    (ds : List Nat) : valueOf b (zeros ++ ds) = valueOf b ds := by
  induction zeros with
  | nil => rfl
  | cons z zeros ih =>
      have hz0 : z = 0 := hz z (List.mem_cons_self ..)
      have hrest := ih fun d hd => hz d (List.mem_cons_of_mem _ hd)
      rw [← hrest, List.cons_append, valueOf, List.foldl_cons, hz0, Nat.zero_mul, Nat.add_zero,
        valueOf]

/-- The most significant digit of a number is not zero. -/
theorem takeWhile_digitsUp_reverse {b : Nat} (hb : 2 ≤ b) (n : Nat) :
    (digitsUp b n).reverse.takeWhile (· == 0) = [] := by
  rw [digitsUp_eq_digits hb]
  cases hds : (Nat.digits b n).reverse with
  | nil => rfl
  | cons d ds =>
      have hne : Nat.digits b n ≠ [] := by
        intro h
        simp [h] at hds
      have hn : n ≠ 0 := Nat.digits_ne_nil_iff_ne_zero.1 hne
      have hlast : (Nat.digits b n).getLast hne ≠ 0 := Nat.getLast_digit_ne_zero b hn
      have hd : (Nat.digits b n).getLast hne = d := by
        rw [← List.head_reverse (by simpa using hne)]
        simp [hds]
      rw [List.takeWhile_cons_of_neg]
      rw [hd] at hlast
      simpa using hlast

/-! ## Change of base -/

theorem mem_takeWhile_zero {ds : List Nat} : ∀ d ∈ ds.takeWhile (· == 0), d = 0 := by
  intro d hd
  simpa using List.mem_takeWhile_imp hd

/-- The zeros in front are carried over. -/
theorem takeWhile_rebase (a : Nat) {b : Nat} (hb : 2 ≤ b) (ds : List Nat) :
    (rebase a b ds).takeWhile (· == 0) = ds.takeWhile (· == 0) := by
  rw [rebase, List.takeWhile_append_of_pos, takeWhile_digitsUp_reverse hb, List.append_nil]
  intro d hd
  simpa using mem_takeWhile_zero d hd

/-- The number is carried over. -/
theorem valueOf_rebase (a : Nat) {b : Nat} (hb : 2 ≤ b) (ds : List Nat) :
    valueOf b (rebase a b ds) = valueOf a ds := by
  rw [rebase, valueOf_zeros_append b mem_takeWhile_zero, valueOf_eq_ofDigits, List.reverse_reverse,
    digitsUp_eq_digits hb, Nat.ofDigits_digits]

/-- Two changes of base are one. -/
theorem rebase_rebase (a : Nat) {b : Nat} (hb : 2 ≤ b) (c : Nat) (ds : List Nat) :
    rebase b c (rebase a b ds) = rebase a c ds := by
  rw [rebase, takeWhile_rebase a hb, valueOf_rebase a hb, rebase]

theorem rebase_lt (a : Nat) {b : Nat} (hb : 2 ≤ b) (ds : List Nat) :
    ∀ d ∈ rebase a b ds, d < b := by
  intro d hd
  rw [rebase, List.mem_append, List.mem_reverse, digitsUp_eq_digits hb] at hd
  rcases hd with hd | hd
  · have := mem_takeWhile_zero d hd
    omega
  · exact Nat.digits_lt_base hb hd

/-- The digits behind the zeros spell the number. -/
theorem valueOf_dropWhile_zero (b : Nat) (ds : List Nat) :
    valueOf b (ds.dropWhile (· == 0)) = valueOf b ds := by
  have hsplit := List.takeWhile_append_dropWhile (p := (· == 0)) (l := ds)
  conv_rhs => rw [← hsplit]
  exact (valueOf_zeros_append b mem_takeWhile_zero _).symm

/-- Digits are determined by the zeros in front and the number. -/
theorem rebase_self {a : Nat} (ha : 2 ≤ a) {ds : List Nat} (hds : ∀ d ∈ ds, d < a) :
    rebase a a ds = ds := by
  -- behind the zeros stand the digits of the number, as the first of them is not zero
  have hdigits : (digitsUp a (valueOf a ds)).reverse = ds.dropWhile (· == 0) := by
    rw [← valueOf_dropWhile_zero, digitsUp_eq_digits ha, valueOf_eq_ofDigits,
      Nat.digits_ofDigits a ha, List.reverse_reverse]
    · intro d hd
      rw [List.mem_reverse] at hd
      exact hds d ((List.dropWhile_sublist _).subset hd)
    · intro hne
      rw [List.getLast_reverse]
      have hhead := List.head_dropWhile_not (· == 0) (l := ds) (by simpa using hne)
      simpa using hhead
  rw [rebase, hdigits, List.takeWhile_append_dropWhile]

/-! ## Characters and digits -/

namespace Codec

variable (c : Codec)

theorem two_le_base : 2 ≤ c.base := c.two_le

theorem symbol_mem (d : Nat) : c.symbol d ∈ c.alphabet := List.get_mem ..

theorem digit?_symbol {d : Nat} (hd : d < c.base) : c.digit? (c.symbol d) = some d := by
  have hsymbol : c.symbol d = c.alphabet.get ⟨d, hd⟩ :=
    congrArg c.alphabet.get (Fin.ext (Nat.mod_eq_of_lt hd))
  rw [digit?, hsymbol, List.idxOf?_eq_some_iff]
  refine ⟨hd, rfl, ?_⟩
  intro j hj heq
  -- an earlier place with the same character is the same place
  have hij := (List.Nodup.getElem_inj_iff c.nodup).1 heq
  omega

/-- Characters that stand for digits are read as these digits. -/
theorem digitsFrom_map_symbol (position : Nat) {ds : List Nat} (hds : ∀ d ∈ ds, d < c.base) :
    c.digitsFrom position (ds.map c.symbol) = .ok ds := by
  induction ds generalizing position with
  | nil => rfl
  | cons d ds ih =>
      have hd := hds d (List.mem_cons_self ..)
      have hrest := ih (position + 1) fun e he => hds e (List.mem_cons_of_mem _ he)
      rw [List.map_cons, digitsFrom, c.digit?_symbol hd]
      simp only [hrest, Except.map]

theorem exists_digit?_iff {ch : CodePoint} : (∃ d, c.digit? ch = some d) ↔ ch ∈ c.alphabet := by
  rw [digit?, ← Option.isSome_iff_exists, Option.isSome_iff_ne_none, ne_eq,
    List.idxOf?_eq_none_iff, not_not]

/-- The texts that are read are those over the alphabet. -/
theorem digitsFrom_ok_iff (position : Nat) {t : Text} :
    (∃ ds, c.digitsFrom position t = .ok ds) ↔ ∀ ch ∈ t, ch ∈ c.alphabet := by
  induction t generalizing position with
  | nil => simp [digitsFrom]
  | cons ch t ih =>
      rw [digitsFrom, List.forall_mem_cons, ← ih (position + 1), ← c.exists_digit?_iff]
      cases c.digit? ch with
      | none => simp
      | some d => cases c.digitsFrom (position + 1) t <;> simp [Except.map]

theorem decode_ok_iff {t : Text} : (∃ b, c.decode t = .ok b) ↔ ∀ ch ∈ t, ch ∈ c.alphabet := by
  rw [← c.digitsFrom_ok_iff 0, decode]
  cases c.digitsFrom 0 t <;> simp [Except.map]

theorem decode_error_iff {t : Text} :
    (∃ f, c.decode t = .error f) ↔ ∃ ch ∈ t, ch ∉ c.alphabet := by
  have hok := c.decode_ok_iff (t := t)
  cases hdecode : c.decode t with
  | error f => simpa [hdecode] using hok
  | ok b => simpa [hdecode] using hok

/-! ## Round trip -/

theorem map_ofNat_map_toNat (b : Bytes) : (b.map UInt8.toNat).map UInt8.ofNat = b := by
  simp [List.map_map, Function.comp_def]

/-- What is written is read back. -/
theorem decode_encode (b : Bytes) : c.decode (c.encode b) = .ok b := by
  have hlt : ∀ d ∈ b.map UInt8.toNat, d < 256 := by
    intro d hd
    obtain ⟨o, -, rfl⟩ := List.mem_map.1 hd
    exact o.toNat_lt
  rw [decode, encode, c.digitsFrom_map_symbol 0 (rebase_lt 256 c.two_le_base _)]
  simp only [Except.map]
  rw [rebase_rebase 256 c.two_le_base, rebase_self (by omega) hlt, map_ofNat_map_toNat]

theorem encode_nil : c.encode [] = [] := by
  simp [encode, rebase, valueOf, digitsUp]

/-- Only the empty octet string is written as the empty text. -/
theorem encode_ne_nil {b : Bytes} (hb : b ≠ []) : c.encode b ≠ [] := by
  intro h
  have hdecode := c.decode_encode b
  rw [h, ← c.encode_nil, c.decode_encode, Except.ok.injEq] at hdecode
  exact hb hdecode.symm

theorem encode_subset (b : Bytes) : ∀ ch ∈ c.encode b, ch ∈ c.alphabet := by
  intro ch hch
  obtain ⟨d, -, rfl⟩ := List.mem_map.1 hch
  exact c.symbol_mem d

theorem ofAlphabet_eq_ok_iff {t : Text} : (∃ c, ofAlphabet t = .ok c) ↔ 2 ≤ t.length ∧ t.Nodup := by
  constructor
  · rintro ⟨c, hc⟩
    unfold ofAlphabet at hc
    split at hc
    · next hlen =>
        split at hc
        · next hnodup => exact ⟨hlen, hnodup⟩
        · simp at hc
    · simp at hc
  · rintro ⟨hlen, hnodup⟩
    exact ⟨⟨t, hlen, hnodup⟩, by rw [ofAlphabet, dif_pos hlen, dif_pos hnodup]⟩

/-- The texts that make a codec are those with two characters and none twice, and every codec reads
    back every octet string that it writes. -/
theorem ofAlphabet_decode_encode :
    (∀ t : Text, (∃ c, ofAlphabet t = .ok c) ↔ 2 ≤ t.length ∧ t.Nodup)
      ∧ ∀ (c : Codec) (b : Bytes), c.decode (c.encode b) = .ok b :=
  ⟨fun _ => ofAlphabet_eq_ok_iff, decode_encode⟩

end Codec

end InviteLink
