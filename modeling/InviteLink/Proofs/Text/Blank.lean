import InviteLink.Text.Blank
import Mathlib.Data.List.TakeWhile

set_option autoImplicit false

/-! # Blanks around a text

What is taken off both ends of a text is the padding that was put there, as long as the text holds
none of the characters that are taken off (`strip_padded`). A text of visible ASCII characters
holds no blank (`isBlank_of_isVisible`). -/

namespace InviteLink

/-- Whether a character is one of ASCII that shows, so no control and no space. -/
def isVisible (c : CodePoint) : Bool := 0x21 ≤ c.toNat && c.toNat ≤ 0x7E

theorem isBlank_of_isVisible {c : CodePoint} (h : isVisible c = true) : isBlank c = false := by
  simp only [isVisible, Bool.and_eq_true, decide_eq_true_eq] at h
  simp only [isBlank, isWhiteSpace, Bool.or_eq_false_iff, Bool.and_eq_false_iff,
    decide_eq_false_iff_not, beq_eq_false_iff_ne]
  omega

theorem toNat_lt_of_isVisible {c : CodePoint} (h : isVisible c = true) : c.toNat < 128 := by
  simp only [isVisible, Bool.and_eq_true, decide_eq_true_eq] at h
  omega

/-- A run of dropped characters ends where a text that does not begin with one stands. -/
theorem dropWhile_padded {drop : CodePoint → Bool} {lead t : Text}
    (hlead : ∀ c ∈ lead, drop c = true) (ht : ∀ c, t.head? = some c → drop c = false) :
    (lead ++ t).dropWhile drop = t := by
  rw [List.dropWhile_append_of_pos hlead]
  cases t with
  | nil => rfl
  | cons c rest => exact List.dropWhile_cons_of_neg (by simp [ht c rfl])

theorem trimBoth_padded {drop : CodePoint → Bool} {lead t trail : Text}
    (hlead : ∀ c ∈ lead, drop c = true) (ht : ∀ c ∈ t, drop c = false)
    (htrail : ∀ c ∈ trail, drop c = true) : trimBoth drop (lead ++ t ++ trail) = t := by
  have hback : (trail.reverse ++ t.reverse).dropWhile drop = t.reverse :=
    dropWhile_padded (by simpa using htrail) fun c hc =>
      ht c (List.mem_reverse.1 (List.mem_of_mem_head? hc))
  cases t with
  | nil =>
      -- without a text in the middle the padding is one run
      have hall : ∀ c ∈ lead ++ [] ++ trail, drop c = true := by
        simpa [or_imp, forall_and] using ⟨hlead, htrail⟩
      rw [trimBoth, List.dropWhile_eq_nil_iff.2 hall]
      rfl
  | cons c rest =>
      have hfront : (lead ++ (c :: rest ++ trail)).dropWhile drop = c :: rest ++ trail :=
        dropWhile_padded hlead (by simpa using ht c List.mem_cons_self)
      rw [trimBoth, List.append_assoc, hfront, List.reverse_append, hback, List.reverse_reverse]

/-- Blanks around a text without blanks are all that is taken off it. -/
theorem strip_padded {lead t trail : Text} (hlead : ∀ c ∈ lead, isBlank c = true)
    (ht : ∀ c ∈ t, isVisible c = true) (htrail : ∀ c ∈ trail, isBlank c = true) :
    strip (lead ++ t ++ trail) = t :=
  trimBoth_padded hlead (fun c hc => isBlank_of_isVisible (ht c hc)) htrail

/-- Nothing new comes into a text when blanks are taken off it. -/
theorem mem_of_mem_strip {c : CodePoint} {t : Text} (h : c ∈ strip t) : c ∈ t := by
  rw [strip, trimBoth, List.mem_reverse] at h
  have hreverse := (List.dropWhile_sublist _).mem h
  exact (List.dropWhile_sublist _).mem (List.mem_reverse.1 hreverse)

end InviteLink
