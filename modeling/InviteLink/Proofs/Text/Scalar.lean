import InviteLink.Proofs.Outcome
import InviteLink.Text.Scalar
import Mathlib.Data.List.Basic

set_option autoImplicit false

/-! # Which texts can be written

A text has characters just when it holds no surrogate (`exists_scalars_eq_ok_iff`), and then it is
the text of these characters and of no others (`scalars_eq_ok_iff`). -/

namespace InviteLink

/-! ## The characters of a text -/

theorem map_char_injective : Function.Injective (List.map CodePoint.char) :=
  List.map_injective_iff.2 fun _ _ h => CodePoint.char.inj h

theorem scalarsFrom_map_char (position : Nat) (s : ScalarText) :
    scalarsFrom position (s.map .char) = .ok s := by
  induction s generalizing position with
  | nil => rfl
  | cons c s ih =>
      rw [List.map_cons, scalarsFrom, ih]
      rfl

theorem eq_map_char_of_scalarsFrom {position : Nat} {t : Text} {s : ScalarText}
    (h : scalarsFrom position t = .ok s) : t = s.map .char := by
  induction t generalizing position s with
  | nil =>
      cases h
      rfl
  | cons c t ih =>
      cases c with
      | surrogate offset => cases h
      | char c =>
          obtain ⟨s', hs', rfl⟩ := map_eq_ok_iff.1 h
          rw [ih hs', List.map_cons]

theorem scalars_map_char (s : ScalarText) : Text.scalars (s.map .char) = .ok s :=
  scalarsFrom_map_char 0 s

/-- The characters of a text are those whose text it is. -/
theorem scalars_eq_ok_iff {t : Text} {s : ScalarText} : t.scalars = .ok s ↔ t = s.map .char := by
  constructor
  · exact eq_map_char_of_scalarsFrom
  · rintro rfl
    exact scalars_map_char s

/-! ## Texts without surrogates -/

theorem isScalar_iff {t : Text} : t.isScalar = true ↔ ∀ c ∈ t, c.isSurrogate = false := by
  simp [Text.isScalar]

@[simp] theorem isScalar_nil : Text.isScalar [] = true := rfl

@[simp] theorem isScalar_append {t t' : Text} :
    Text.isScalar (t ++ t') = (t.isScalar && t'.isScalar) := List.all_append

@[simp] theorem isScalar_cons {c : CodePoint} {t : Text} :
    Text.isScalar (c :: t) = (!c.isSurrogate && t.isScalar) := rfl

theorem isScalar_map_char (s : ScalarText) : Text.isScalar (s.map .char) = true := by
  rw [isScalar_iff]
  intro c hc
  obtain ⟨c, -, rfl⟩ := List.mem_map.1 hc
  rfl

@[simp] theorem isScalar_points (s : String) : s.points.isScalar = true :=
  isScalar_map_char s.toList

/-- The numbers of the surrogates are far beyond ASCII. -/
theorem isScalar_of_ascii {t : Text} (h : ∀ c ∈ t, c.toNat < 128) : t.isScalar = true := by
  rw [isScalar_iff]
  intro c hc
  have hlt := h c hc
  cases c with
  | char c => rfl
  | surrogate offset =>
      rw [CodePoint.toNat_surrogate] at hlt
      omega

/-- A text without surrogates is the text of some characters. -/
theorem exists_eq_map_char_iff {t : Text} :
    (∃ s : ScalarText, t = s.map .char) ↔ t.isScalar = true := by
  constructor
  · rintro ⟨s, rfl⟩
    exact isScalar_map_char s
  · intro h
    induction t with
    | nil => exact ⟨[], rfl⟩
    | cons c t ih =>
        rw [isScalar_cons, Bool.and_eq_true] at h
        obtain ⟨s, rfl⟩ := ih h.2
        cases c with
        | char c => exact ⟨c :: s, rfl⟩
        | surrogate offset => exact absurd h.1 Bool.false_ne_true

theorem exists_scalars_eq_ok_iff {t : Text} : (∃ s, t.scalars = .ok s) ↔ t.isScalar = true := by
  simp only [scalars_eq_ok_iff, exists_eq_map_char_iff]

theorem exists_scalars_eq_error_iff {t : Text} :
    (∃ f, t.scalars = .error f) ↔ t.isScalar = false := by
  rw [exists_eq_error_iff, exists_scalars_eq_ok_iff, Bool.not_eq_true]

end InviteLink
