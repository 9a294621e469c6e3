import InviteLink.Proofs.Codec.Base64
import Mathlib.Tactic.SplitIfs

set_option autoImplicit false

/-! # Which texts are base 64

Reading goes through a text once and keeps in mind how far the group under way has come, how many
padding signs count towards it, and whether padding has begun. From there on only padding signs may
follow: any number of them behind whole groups, and otherwise just those that the last group lacks
(`exists_scan_padded_iff`). Before that, characters of the alphabet are counted, and what may follow
them depends on their number alone (`Follows`, `exists_scan_iff`). So a text is read if and only if
it is strict base 64 (`IsStrict`), a condition that speaks of groups and of what ends them, and not
of a reader. -/

namespace InviteLink.Base64

/-! ## The alphabet -/

/-- The characters that stand for values, in the order of the values. -/
def alphabet : Text :=
  "ABCDEFGHIJKLMNOPQRSTUVWXYZabcdefghijklmnopqrstuvwxyz0123456789+/".points

theorem toNat_lt_of_value? {c : CodePoint} {v : Nat} (h : value? c = some v) : c.toNat < 128 := by
  unfold value? at h
  dsimp only at h
  split_ifs at h with _ _ _ hplus hslash
  · omega
  · omega
  · omega
  · rw [hplus]
    decide
  · rw [hslash]
    decide

/-- The characters of the alphabet are those that have a value. -/
theorem exists_value?_iff {c : CodePoint} : (∃ v, value? c = some v) ↔ c ∈ alphabet := by
  constructor
  · rintro ⟨v, hv⟩
    have hall : ∀ n < 128, (value? (CodePoint.ofNat n)).isSome = true →
        CodePoint.ofNat n ∈ alphabet := by decide +kernel
    have hmem := hall c.toNat (toNat_lt_of_value? hv)
    rw [CodePoint.ofNat_toNat, hv] at hmem
    exact hmem rfl
  · intro hc
    have hall : alphabet.all (fun d => (value? d).isSome) = true := by decide +kernel
    exact Option.isSome_iff_exists.1 (List.all_eq_true.1 hall c hc)

theorem value?_eq_none_iff {c : CodePoint} : value? c = none ↔ c ∉ alphabet := by
  rw [← exists_value?_iff, ← Option.isSome_iff_exists, Option.not_isSome_iff_eq_none]

theorem padding_not_mem_alphabet : .char '=' ∉ alphabet := by
  decide +kernel

theorem toNat_lt_of_mem_alphabet {c : CodePoint} (hc : c ∈ alphabet) : c.toNat < 128 := by
  obtain ⟨v, hv⟩ := exists_value?_iff.2 hc
  exact toNat_lt_of_value? hv

/-! ## One step of reading -/

/-- A padding sign begins the padding, if it has not begun. -/
theorem scan_padding_cons (count pads : Nat) (padded : Bool) (rest : Text) :
    scan count pads padded (.char '=' :: rest) = scan count pads true (.char '=' :: rest) := by
  rw [scan, scan, if_pos rfl, if_pos rfl]

/-- A text may end where no group is under way. -/
theorem exists_scan_nil_iff (count pads : Nat) (padded : Bool) :
    (∃ vs, scan count pads padded [] = .ok vs) ↔ count % 4 = 0 := by
  rw [scan]
  split_ifs with hwhole
  · exact iff_of_true ⟨[], rfl⟩ hwhole
  · refine iff_of_false ?_ hwhole
    rintro ⟨vs, hvs⟩
    cases hvs
  · refine iff_of_false ?_ hwhole
    rintro ⟨vs, hvs⟩
    cases hvs

theorem scan_value_cons {c : CodePoint} {v : Nat} (hv : value? c = some v) (count : Nat)
    (rest : Text) :
    scan count 0 false (c :: rest) = (scan (count + 1) 0 false rest).map (v :: ·) := by
  have hc : c ≠ '=' := by
    rintro rfl
    exact padding_not_mem_alphabet (exists_value?_iff.1 ⟨v, hv⟩)
  rw [scan, if_neg hc, hv]
  rfl

/-- Behind the first padding sign there is no other character. -/
theorem not_exists_scan_padded_cons {c : CodePoint} (hc : c ≠ '=') (count pads : Nat)
    (rest : Text) :
    ¬∃ vs, scan count pads true (c :: rest) = .ok vs := by
  rintro ⟨vs, h⟩
  rw [scan, if_neg hc] at h
  cases hv : value? c with
  | none =>
      rw [hv] at h
      cases h
  | some v =>
      rw [hv] at h
      cases h

theorem not_exists_scan_foreign_cons {c : CodePoint} (hc : c ≠ '=') (hforeign : c ∉ alphabet)
    (count pads : Nat) (padded : Bool) (rest : Text) :
    ¬∃ vs, scan count pads padded (c :: rest) = .ok vs := by
  rintro ⟨vs, h⟩
  rw [scan, if_neg hc, value?_eq_none_iff.2 hforeign] at h
  cases h

/-! ## Padding -/

/-- So many padding signs end a text of `count` characters of the alphabet: behind whole groups
    their number is open, and otherwise they fill up a group of two characters or three. -/
def Closes (count pads : Nat) : Prop :=
  count % 4 = 0 ∨ 2 ≤ count % 4 ∧ count % 4 + pads = 4

theorem exists_padding_cons_iff {rest : Text} {p : Nat → Prop} :
    (∃ n, .char '=' :: rest = List.replicate n (.char '=') ∧ p n)
      ↔ ∃ n, rest = List.replicate n (.char '=') ∧ p (n + 1) := by
  constructor
  · rintro ⟨n, hn, hp⟩
    cases n with
    | zero => cases hn
    | succ n => exact ⟨n, (List.cons.inj hn).2, hp⟩
  · rintro ⟨n, rfl, hp⟩
    exact ⟨n + 1, rfl, hp⟩

/-- From the first padding sign on there are padding signs only, and with those that have been
    counted they end the text. The group under way is not full before that. -/
theorem exists_scan_padded_iff {count pads : Nat} (hopen : count % 4 + pads < 4) {t : Text} :
    (∃ vs, scan count pads true t = .ok vs)
      ↔ ∃ n, t = List.replicate n (.char '=') ∧ Closes count (pads + n) := by
  induction t generalizing pads with
  | nil =>
      rw [exists_scan_nil_iff]
      constructor
      · intro hwhole
        exact ⟨0, rfl, Or.inl hwhole⟩
      · rintro ⟨n, hn, hclose⟩
        obtain rfl : n = 0 := by simpa using hn.symm
        rcases hclose with hwhole | ⟨-, hfull⟩
        · exact hwhole
        · omega
  | cons c rest ih =>
      by_cases hc : c = '='
      · subst hc
        rw [exists_padding_cons_iff, scan, if_pos rfl]
        split_ifs with hshort hcount hrest
        · -- with no group to fill up the sign is passed over
          rw [ih hopen]
          refine exists_congr fun n => and_congr_right fun _ => ?_
          unfold Closes
          omega
        · rw [ih hcount]
          refine exists_congr fun n => and_congr_right fun _ => ?_
          rw [Nat.add_assoc, Nat.add_comm 1 n]
        · -- the sign fills up the group, and nothing follows
          constructor
          · intro _
            exact ⟨0, hrest, Or.inr ⟨by omega, by omega⟩⟩
          · intro _
            exact ⟨[], rfl⟩
        · constructor
          · rintro ⟨vs, hvs⟩
            cases hvs
          · rintro ⟨n, rfl, hclose⟩
            have hnone : n = 0 := by
              unfold Closes at hclose
              omega
            exact absurd (by rw [hnone]; rfl) hrest
      · refine iff_of_false (not_exists_scan_padded_cons hc count pads rest) ?_
        rintro ⟨n, hn, -⟩
        exact hc (List.eq_of_mem_replicate (hn ▸ List.mem_cons_self))

/-! ## Whole texts -/

/-- The text may follow `count` characters of the alphabet: it is made of such characters and of
    padding signs behind them, which end it. -/
def Follows (count : Nat) (t : Text) : Prop :=
  ∃ data n, t = data ++ List.replicate n (.char '=') ∧ (∀ c ∈ data, c ∈ alphabet)
    ∧ Closes (count + data.length) n

section Follows

variable {count : Nat} {c : CodePoint} {rest t : Text}

/-- The first character in front of padding is a padding sign or the first of what stands there. -/
theorem cons_eq_append_padding {data : Text} {n : Nat}
    (h : c :: rest = data ++ List.replicate n (.char '=')) :
    (data = [] ∧ c = '=')
      ∨ ∃ data', data = c :: data' ∧ rest = data' ++ List.replicate n (.char '=') := by
  cases data with
  | nil =>
      have hc : c ∈ List.replicate n (.char '=') := by
        rw [List.nil_append] at h
        rw [← h]
        exact List.mem_cons_self
      exact Or.inl ⟨rfl, List.eq_of_mem_replicate hc⟩
  | cons d data =>
      obtain ⟨rfl, rfl⟩ := List.cons.inj h
      exact Or.inr ⟨data, rfl, rfl⟩

theorem follows_nil_iff : Follows count [] ↔ count % 4 = 0 := by
  constructor
  · rintro ⟨data, n, hempty, -, hclose⟩
    obtain ⟨rfl, hn⟩ := List.append_eq_nil_iff.1 hempty.symm
    obtain rfl : n = 0 := by simpa using hn
    rcases hclose with hwhole | ⟨-, hfull⟩
    · exact hwhole
    · rw [List.length_nil] at hfull
      omega
  · intro hwhole
    exact ⟨[], 0, rfl, by simp, Or.inl hwhole⟩

theorem follows_padding_cons_iff :
    Follows count (.char '=' :: rest)
      ↔ ∃ n, .char '=' :: rest = List.replicate n (.char '=') ∧ Closes count n := by
  constructor
  · rintro ⟨data, n, hdata, halphabet, hclose⟩
    rcases cons_eq_append_padding hdata with ⟨rfl, -⟩ | ⟨data', rfl, -⟩
    · exact ⟨n, hdata, hclose⟩
    · exact absurd (halphabet _ List.mem_cons_self) padding_not_mem_alphabet
  · rintro ⟨n, hn, hclose⟩
    exact ⟨[], n, hn, by simp, hclose⟩

theorem follows_cons_iff (hc : c ∈ alphabet) :
    Follows count (c :: rest) ↔ Follows (count + 1) rest := by
  constructor
  · rintro ⟨data, n, hdata, halphabet, hclose⟩
    rcases cons_eq_append_padding hdata with ⟨-, rfl⟩ | ⟨data', rfl, rfl⟩
    · exact absurd hc padding_not_mem_alphabet
    · refine ⟨data', n, rfl, (List.forall_mem_cons.1 halphabet).2, ?_⟩
      rwa [List.length_cons, Nat.add_comm data'.length 1, ← Nat.add_assoc] at hclose
  · rintro ⟨data, n, rfl, halphabet, hclose⟩
    refine ⟨c :: data, n, rfl, List.forall_mem_cons.2 ⟨hc, halphabet⟩, ?_⟩
    rwa [List.length_cons, Nat.add_comm data.length 1, ← Nat.add_assoc]

theorem Follows.mem (h : Follows count t) : ∀ c ∈ t, c ∈ alphabet ∨ c = '=' := by
  obtain ⟨data, n, rfl, halphabet, -⟩ := h
  intro c hc
  rcases List.mem_append.1 hc with hdata | hpad
  · exact Or.inl (halphabet c hdata)
  · exact Or.inr (List.eq_of_mem_replicate hpad)

theorem Follows.toNat_lt (h : Follows count t) : ∀ c ∈ t, c.toNat < 128 := by
  intro c hc
  rcases h.mem c hc with halphabet | rfl
  · exact toNat_lt_of_mem_alphabet halphabet
  · decide

/-- Before any padding, characters of the alphabet are read up to the padding that ends the text. -/
theorem exists_scan_iff : (∃ vs, scan count 0 false t = .ok vs) ↔ Follows count t := by
  induction t generalizing count with
  | nil => rw [exists_scan_nil_iff, follows_nil_iff]
  | cons c rest ih =>
      by_cases hpad : c = '='
      · subst hpad
        rw [scan_padding_cons, exists_scan_padded_iff (by omega), follows_padding_cons_iff]
        simp only [Nat.zero_add]
      · by_cases hc : c ∈ alphabet
        · obtain ⟨v, hv⟩ := exists_value?_iff.2 hc
          rw [scan_value_cons hv, exists_map_eq_ok_iff, ih, follows_cons_iff hc]
        · refine iff_of_false (not_exists_scan_foreign_cons hpad hc count 0 false rest) ?_
          intro hfollows
          rcases hfollows.mem c List.mem_cons_self with halphabet | heq
          · exact hc halphabet
          · exact hpad heq

/-- A text is read if characters of the alphabet make it up to the padding that ends it, and it does
    not begin with padding. -/
theorem exists_decode_iff :
    (∃ bs, decode t = .ok bs) ↔ Follows 0 t ∧ t.head? ≠ some '=' := by
  rw [decode]
  split_ifs with hascii hlead
  · refine iff_of_false (by simp) ?_
    rintro ⟨hfollows, -⟩
    obtain ⟨c, hc, hlarge⟩ := List.any_eq_true.1 hascii
    exact absurd (hfollows.toNat_lt c hc) (Nat.not_lt.2 (of_decide_eq_true hlarge))
  · exact iff_of_false (by simp) fun h => h.2 hlead
  · rw [exists_map_eq_ok_iff, exists_scan_iff]
    exact (and_iff_left hlead).symm

end Follows

/-! ## Groups -/

/-- What may stand behind whole groups: nothing, a group of two or three characters with the padding
    that fills it up, or, if there is a whole group, any padding. -/
inductive Ending (groups : Text) : Text → Prop
  | nothing : Ending groups []
  | two {a b : CodePoint} (ha : a ∈ alphabet) (hb : b ∈ alphabet) : Ending groups [a, b, '=', '=']
  | three {a b c : CodePoint} (ha : a ∈ alphabet) (hb : b ∈ alphabet) (hc : c ∈ alphabet) :
    Ending groups [a, b, c, '=']
  | surplus (n : Nat) (hgroups : groups ≠ []) : Ending groups (List.replicate n (.char '='))

/-- Strict base 64: whole groups of four characters of the alphabet, and an ending. -/
def IsStrict (t : Text) : Prop :=
  ∃ groups ending, t = groups ++ ending ∧ 4 ∣ groups.length ∧ (∀ c ∈ groups, c ∈ alphabet)
    ∧ Ending groups ending

/-- The characters behind the last whole group, with padding that closes the text, are an ending. -/
theorem ending_of_closes {groups last : Text} {n : Nat} (hgroups : 4 ∣ groups.length)
    (hlength : last.length < 4) (hlast : ∀ c ∈ last, c ∈ alphabet)
    (hclose : Closes (groups.length + last.length) n) (halone : groups ++ last = [] → n = 0) :
    Ending groups (last ++ List.replicate n (.char '=')) := by
  rw [Closes] at hclose
  rcases last with _ | ⟨a, _ | ⟨b, _ | ⟨c, _ | ⟨d, more⟩⟩⟩⟩
  · by_cases hempty : groups = []
    · obtain rfl : n = 0 := halone (by simp [hempty])
      exact .nothing
    · exact .surplus n hempty
  · -- nothing closes a group of one character
    rw [List.length_singleton] at hclose
    omega
  · obtain rfl : n = 2 := by
      simp only [List.length_cons, List.length_nil] at hclose
      omega
    exact .two (hlast a (by simp)) (hlast b (by simp))
  · obtain rfl : n = 1 := by
      simp only [List.length_cons, List.length_nil] at hclose
      omega
    exact .three (hlast a (by simp)) (hlast b (by simp)) (hlast c (by simp))
  · simp only [List.length_cons] at hlength
    omega

theorem isStrict_of_follows {t : Text} (h : Follows 0 t) (hlead : t.head? ≠ some '=') :
    IsStrict t := by
  obtain ⟨data, n, rfl, halphabet, hclose⟩ := h
  have hsplit : data.take (data.length / 4 * 4) ++ data.drop (data.length / 4 * 4) = data :=
    List.take_append_drop _ data
  have hwhole : 4 ∣ (data.take (data.length / 4 * 4)).length := by
    rw [List.length_take]
    omega
  refine ⟨_, data.drop (data.length / 4 * 4) ++ List.replicate n (.char '='), ?_, hwhole, ?_,
    ending_of_closes hwhole ?_ ?_ ?_ ?_⟩
  · rw [← List.append_assoc, hsplit]
  · intro c hc
    exact halphabet c (List.mem_of_mem_take hc)
  · rw [List.length_drop]
    omega
  · intro c hc
    exact halphabet c (List.mem_of_mem_drop hc)
  · rwa [← List.length_append, hsplit, ← Nat.zero_add data.length]
  · rw [hsplit]
    rintro rfl
    cases n with
    | zero => rfl
    | succ n => exact absurd rfl hlead

theorem IsStrict.follows {t : Text} (h : IsStrict t) : Follows 0 t := by
  obtain ⟨groups, ending, rfl, hwhole, hgroups, hending⟩ := h
  rw [Nat.dvd_iff_mod_eq_zero] at hwhole
  cases hending with
  | nothing => exact ⟨groups, 0, rfl, hgroups, Or.inl (by omega)⟩
  | @two a b ha hb =>
      refine ⟨groups ++ [a, b], 2, by simp [List.replicate], ?_, Or.inr ?_⟩
      · rw [List.forall_mem_append]
        exact ⟨hgroups, by simp [ha, hb]⟩
      · simp only [List.length_append, List.length_cons, List.length_nil]
        omega
  | @three a b c ha hb hc =>
      refine ⟨groups ++ [a, b, c], 1, by simp [List.replicate], ?_, Or.inr ?_⟩
      · rw [List.forall_mem_append]
        exact ⟨hgroups, by simp [ha, hb, hc]⟩
      · simp only [List.length_append, List.length_cons, List.length_nil]
        omega
  | surplus n _ => exact ⟨groups, n, rfl, hgroups, Or.inl (by omega)⟩

/-- Strict base 64 begins with no padding sign. -/
theorem IsStrict.head?_ne {t : Text} (h : IsStrict t) : t.head? ≠ some '=' := by
  have hne : ∀ {c : CodePoint}, c ∈ alphabet → c ≠ '=' := by
    rintro c hc rfl
    exact padding_not_mem_alphabet hc
  obtain ⟨groups, ending, rfl, -, hgroups, hending⟩ := h
  cases groups with
  | cons g groups => simpa using hne (hgroups g List.mem_cons_self)
  | nil =>
      cases hending with
      | nothing => simp
      | two ha _ => simpa using hne ha
      | three ha _ _ => simpa using hne ha
      | surplus n hgroups => exact absurd rfl hgroups

theorem exists_decode_iff_isStrict {t : Text} : (∃ bs, decode t = .ok bs) ↔ IsStrict t := by
  rw [exists_decode_iff]
  constructor
  · rintro ⟨hfollows, hlead⟩
    exact isStrict_of_follows hfollows hlead
  · intro hstrict
    exact ⟨hstrict.follows, hstrict.head?_ne⟩

/-- Octets are read as they were written. A text is read if it is strict base 64, and every other
    text is refused; so is a text with any character that is neither of the alphabet nor a padding
    sign. -/
theorem decode_strict :
    (∀ bs, decode (encode bs) = .ok bs)
      ∧ (∀ t, (∃ bs, decode t = .ok bs) ↔ IsStrict t)
      ∧ (∀ t, (∃ f, decode t = .error f) ↔ ¬IsStrict t)
      ∧ ∀ t, (∃ c ∈ t, c ∉ alphabet ∧ c ≠ '=') → ∃ f, decode t = .error f := by
  have hrefused : ∀ t, (∃ f, decode t = .error f) ↔ ¬IsStrict t := by
    intro t
    rw [exists_eq_error_iff, exists_decode_iff_isStrict]
  refine ⟨decode_encode, fun t => exists_decode_iff_isStrict, hrefused, ?_⟩
  rintro t ⟨c, hc, hforeign, hpad⟩
  rw [hrefused]
  intro hstrict
  rcases hstrict.follows.mem c hc with halphabet | hc
  · exact hforeign halphabet
  · exact hpad hc

/-- Padding behind a whole group is read, however much there is; a blank there is not. -/
theorem decode_strict_surplus :
    (∃ bs, decode "AP8v=====".points = .ok bs) ∧ ∃ f, decode "AP8v ".points = .error f := by
  have hgroup : ∀ c ∈ "AP8v".points, c ∈ alphabet := by
    have hall : "AP8v".points.all (fun c => (value? c).isSome) = true := by decide
    intro c hc
    exact exists_value?_iff.1 (Option.isSome_iff_exists.1 (List.all_eq_true.1 hall c hc))
  have hstrict : IsStrict "AP8v=====".points :=
    ⟨"AP8v".points, List.replicate 5 (.char '='), rfl, by decide, hgroup, .surplus 5 (by decide)⟩
  exact ⟨(decode_strict.2.1 _).2 hstrict,
    decode_strict.2.2.2 _ ⟨' ', by decide, by decide +kernel, by decide⟩⟩

end InviteLink.Base64
