import InviteLink.Proofs.Text.Utf8
import InviteLink.Text.Lowercase

set_option autoImplicit false

/-! # Leads disregard the case of ASCII letters, and nothing else

Lower-casing knows all of Unicode: some characters beyond ASCII become ASCII letters, and one
becomes two code points. None of them becomes part of an ASCII text without the letter k
(`lowerFrom_eq_iff`): the Kelvin sign is the one character beyond ASCII that becomes an ASCII
letter by itself, and the capital I with dot leaves a combining dot behind. So a text begins with
a lead that has no k just when it does so up to the case of ASCII letters (`hasLead_iff`). -/

namespace InviteLink

/-- Texts that are the same up to the case of ASCII letters. -/
def SameUpToCase (s t : Text) : Prop := s.map CodePoint.toLower = t.map CodePoint.toLower

/-- ASCII without the letter k, on which full lower-casing is plain. -/
def IsPlainAscii (t : Text) : Prop := ∀ c ∈ t, c.toNat < 128 ∧ c.toLower ≠ 'k'

instance (s t : Text) : Decidable (SameUpToCase s t) :=
  inferInstanceAs (Decidable (s.map CodePoint.toLower = t.map CodePoint.toLower))

instance (t : Text) : Decidable (IsPlainAscii t) :=
  List.decidableBAll (fun c : CodePoint => c.toNat < 128 ∧ c.toLower ≠ 'k') t

/-! ## Single characters -/

theorem toLower_of_not_ascii {c : CodePoint} (hc : 128 ≤ c.toNat) : c.toLower = c := by
  cases c with
  | char c =>
      have hz : ¬c.val ≤ 'Z'.val := by
        intro h
        have hle : c.toNat ≤ 90 := h
        rw [CodePoint.toNat_char] at hc
        omega
      exact congrArg CodePoint.char (dif_neg fun h => hz h.2)
  | surrogate offset => rfl

/-- What is no small letter is the lower case of itself alone. -/
theorem eq_of_toLower_eq {c x : CodePoint} (h : c.toLower = x)
    (hx : x.toNat < 97 ∨ 122 < x.toNat) : c = x := by
  have hall : ∀ n < 128, (CodePoint.ofNat n).toLower.toNat < 97
      ∨ 122 < (CodePoint.ofNat n).toLower.toNat →
      (CodePoint.ofNat n).toLower = CodePoint.ofNat n := by decide
  by_cases hc : c.toNat < 128
  · have hascii := hall c.toNat hc
    rw [CodePoint.ofNat_toNat, h] at hascii
    exact (hascii hx).symm
  · rw [← h, toLower_of_not_ascii (by omega)]

theorem lowerChar_of_ascii {c : CodePoint} (hc : c.toNat < 128) : lowerChar c = c.toLower := by
  have hall : ∀ n < 128, lowerChar (CodePoint.ofNat n) = (CodePoint.ofNat n).toLower := by
    decide +kernel
  have h := hall c.toNat hc
  rwa [CodePoint.ofNat_toNat] at h

/-- Apart from the capital letters of ASCII and the Kelvin sign, a run of the mapping lies beyond
    ASCII on both sides, and all that it gives are code points. -/
theorem mem_lowercaseRuns {run : Nat × Nat × Nat × Nat} (h : run ∈ lowercaseRuns) :
    run = (0x41, 0x5A, 1, 0x61) ∨ run = (0x212A, 0x212A, 1, 0x6B) ∨
      128 ≤ run.2.2.2 ∧ (run.2.2.2 + (run.2.1 - run.1) < 0xD800 ∨
        0xE000 ≤ run.2.2.2 ∧ run.2.2.2 + (run.2.1 - run.1) < 0x110000) := by
  revert run
  decide +kernel

/-- Beyond ASCII only the Kelvin sign has a lower case in ASCII. -/
theorem lowerChar_of_not_ascii {c : CodePoint} (hc : 128 ≤ c.toNat) :
    lowerChar c = 'k' ∨ 128 ≤ (lowerChar c).toNat := by
  rw [lowerChar]
  split
  · next run hrun =>
      have hcovers := List.find?_some hrun
      simp only [runCovers, Bool.and_eq_true, decide_eq_true_eq] at hcovers
      obtain ⟨⟨hfirst, hlast⟩, -⟩ := hcovers
      rcases mem_lowercaseRuns (List.mem_of_find?_eq_some hrun) with rfl | rfl | ⟨htarget, hrange⟩
      · dsimp only at hlast
        omega
      · left
        dsimp only at hfirst hlast
        have hn : c.toNat = 0x212A := by omega
        rw [hn]
        rfl
      · right
        rw [CodePoint.toNat_ofNat (by omega)]
        omega
  · exact Or.inr hc

/-- Full lower-casing and that of ASCII give an ASCII character other than k from the same
    characters. -/
theorem lowerChar_eq_iff {c x : CodePoint} (hx : x.toNat < 128) (hk : x ≠ 'k') :
    lowerChar c = x ↔ c.toLower = x := by
  by_cases hc : c.toNat < 128
  · rw [lowerChar_of_ascii hc]
  · constructor
    · rintro rfl
      rcases lowerChar_of_not_ascii (c := c) (by omega) with h | h
      · exact absurd h hk
      · omega
    · rintro rfl
      rw [toLower_of_not_ascii (by omega)] at hx
      omega

/-! ## Texts -/

theorem lowerFrom_eq_iff {t q : Text} (afterCased : Bool)
    (hq : ∀ c ∈ q, c.toNat < 128 ∧ c ≠ 'k') :
    lowerFrom afterCased t = q ↔ t.map CodePoint.toLower = q := by
  induction t generalizing afterCased q with
  | nil => simp [lowerFrom]
  | cons c t ih =>
      have hhead : ∀ (x : CodePoint) (rest : Text), 128 ≤ x.toNat → x :: rest ≠ q := by
        rintro x rest hx rfl
        have := (hq x (List.mem_cons_self ..)).1
        omega
      rw [lowerFrom, List.map_cons]
      generalize (if isCaseIgnorable c then afterCased else isCased c) = after
      split_ifs with hsigma hfinal hdotted
      -- neither small sigma lies in ASCII
      · subst hsigma
        exact iff_of_false (hhead _ _ (by decide)) (hhead _ _ (by decide))
      · subst hsigma
        exact iff_of_false (hhead _ _ (by decide)) (hhead _ _ (by decide))
      · -- the dot that is left behind lies beyond ASCII
        subst hdotted
        refine iff_of_false ?_ (hhead _ _ (by decide))
        rintro rfl
        have hdot := (hq '\u0307' (by simp)).1
        exact absurd hdot (by decide)
      · rw [List.singleton_append]
        cases q with
        | nil => simp
        | cons x q =>
            obtain ⟨hx, hk⟩ := hq x (List.mem_cons_self ..)
            rw [List.cons.injEq, List.cons.injEq, lowerChar_eq_iff hx hk,
              ih after fun y hy => hq y (List.mem_cons_of_mem _ hy)]

theorem isPlainAscii_map_toLower {p : Text} (hp : IsPlainAscii p) :
    ∀ c ∈ p.map CodePoint.toLower, c.toNat < 128 ∧ c ≠ 'k' := by
  have hall : ∀ n < 128, (CodePoint.ofNat n).toLower.toNat < 128 := by decide
  intro c hc
  obtain ⟨d, hd, rfl⟩ := List.mem_map.1 hc
  obtain ⟨hascii, hk⟩ := hp d hd
  have h := hall d.toNat hascii
  rw [CodePoint.ofNat_toNat] at h
  exact ⟨h, hk⟩

/-- A plain text has the lower case of just the texts that are the same up to case. -/
theorem lower_eq_iff {p t : Text} (hp : IsPlainAscii p) :
    lower t = lower p ↔ SameUpToCase t p := by
  have hq := isPlainAscii_map_toLower hp
  rw [lower, lower, (lowerFrom_eq_iff false hq).2 rfl, lowerFrom_eq_iff false hq, SameUpToCase]

theorem hasLead_iff {p t : Text} (hp : IsPlainAscii p) :
    hasLead p t = true ↔ SameUpToCase (t.take p.length) p := by
  rw [hasLead, beq_iff_eq, lower_eq_iff hp]

theorem SameUpToCase.refl (t : Text) : SameUpToCase t t := rfl

theorem SameUpToCase.length_eq {s t : Text} (h : SameUpToCase s t) : s.length = t.length := by
  have := congrArg List.length h
  simpa using this

/-- A character without case that stands in one of two such texts stands in the other. -/
theorem SameUpToCase.not_mem {s t : Text} {c : CodePoint} (h : SameUpToCase s t)
    (hc : c.toLower = c) (ht : c ∉ t.map CodePoint.toLower) : c ∉ s := by
  intro hs
  have hmem : c.toLower ∈ s.map CodePoint.toLower := List.mem_map_of_mem hs
  rw [h, hc] at hmem
  exact ht hmem

/-- Nothing beyond ASCII stands for a letter of an ASCII text. -/
theorem SameUpToCase.ascii {s p : Text} (h : SameUpToCase s p) (hp : IsPlainAscii p) :
    ∀ c ∈ s, c.toNat < 128 := by
  intro c hc
  have hmem : c.toLower ∈ p.map CodePoint.toLower := by
    rw [← h]
    exact List.mem_map_of_mem hc
  have hlower := (isPlainAscii_map_toLower hp _ hmem).1
  by_cases hascii : c.toNat < 128
  · exact hascii
  · rwa [toLower_of_not_ascii (by omega)] at hlower

theorem sameUpToCase_append_iff {s p q : Text} :
    SameUpToCase s (p ++ q) ↔ ∃ a b, s = a ++ b ∧ SameUpToCase a p ∧ SameUpToCase b q := by
  simp only [SameUpToCase, List.map_append, List.map_eq_append_iff]

/-- A character that has no case stands only for itself. -/
theorem sameUpToCase_singleton_iff {s : Text} {x : CodePoint} (hx : x.toNat < 97 ∨ 122 < x.toNat)
    (hself : x.toLower = x) : SameUpToCase s [x] ↔ s = [x] := by
  constructor
  · intro h
    rw [SameUpToCase, List.map_singleton, hself] at h
    obtain ⟨c, rfl, hc⟩ := List.map_eq_singleton_iff.1 h
    rw [eq_of_toLower_eq hc hx]
  · rintro rfl
    exact .refl _

/-- A text has a lead just when it is the lead, up to case, and something behind it. -/
theorem hasLead_iff_exists {p t : Text} (hp : IsPlainAscii p) :
    hasLead p t = true ↔ ∃ head rest, t = head ++ rest ∧ SameUpToCase head p := by
  rw [hasLead_iff hp]
  constructor
  · intro h
    exact ⟨t.take p.length, t.drop p.length, (List.take_append_drop ..).symm, h⟩
  · rintro ⟨head, rest, rfl, h⟩
    rwa [← h.length_eq, List.take_left]

end InviteLink
