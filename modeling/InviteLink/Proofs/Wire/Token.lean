import InviteLink.Proofs.Wire.Form

set_option autoImplicit false

/-! # Fields are read one after the other

The token in front of a message decides how its fields go on (`scan_of_read`). So octets that are
forms of some fields, one after the other, are sound octets with these fields (`scan_of_areForms`),
and to read them into a message means to take up the fields in their order
(`readInto_of_areForms`). -/

namespace InviteLink.Wire

/-! ## Fields -/

/-- A token that is a field of a message: its number is positive and it marks no group. -/
structure Token.IsField (t : Token) : Prop where
  number_ne : t.number ≠ 0
  not_opening : t.payload ≠ .opening
  not_closing : t.payload ≠ .closing

theorem scan_nil (budget : Nat) : scan budget [] = ([], true) := by
  rw [scan, if_pos rfl]

/-- A token that is read is in front of something. -/
theorem Token.ne_nil_of_read {bs rest : Bytes} {t : Token} (h : Token.read bs = some (t, rest)) :
    bs ≠ [] := by
  rintro rfl
  have := Token.read_shortens h
  simp at this

/-- The token in front decides how the fields of a message go on. -/
theorem scan_of_read {budget : Nat} {bs rest : Bytes} {t : Token}
    (h : Token.read bs = some (t, rest)) :
    scan budget bs
      = if t.number = 0 then ([], false)
        else match t.payload with
          | .closing => ([], false)
          | .opening =>
            if budget = 0 then ([], false)
            else match skipGroups budget [t.number] rest with
              | none => ([], false)
              | some rest' => scan budget rest'
          | _ => (t :: (scan budget rest).1, (scan budget rest).2) := by
  rw [scan, if_neg (Token.ne_nil_of_read h)]
  split
  · next hnone =>
      rw [h] at hnone
      cases hnone
  · next t' rest' hsome =>
      rw [h] at hsome
      cases hsome
      obtain ⟨number, payload⟩ := t
      cases payload with
      | opening =>
          dsimp only
          split_ifs
          · rfl
          · rfl
          · split
            · next hgroup => simp only [hgroup]
            · next rest' hgroup => simp only [hgroup]
      | _ => rfl

theorem scan_token {budget : Nat} {bs rest : Bytes} {t : Token}
    (h : Token.read bs = some (t, rest)) (ht : t.IsField) :
    scan budget bs = (t :: (scan budget rest).1, (scan budget rest).2) := by
  rw [scan_of_read h, if_neg ht.number_ne]
  split
  · next hp => exact absurd hp ht.not_closing
  · next hp => exact absurd hp ht.not_opening
  · rfl

/-! ## Runs of forms -/

theorem Token.isField_of_isForm {t : Token} {bs : Bytes} (h : t.IsForm bs) : t.IsField := by
  cases h with
  | varint htag => exact ⟨Nat.ne_of_gt htag.positive, by simp, by simp⟩
  | fixed64 htag => exact ⟨Nat.ne_of_gt htag.positive, by simp, by simp⟩
  | chunk htag => exact ⟨Nat.ne_of_gt htag.positive, by simp, by simp⟩
  | fixed32 htag => exact ⟨Nat.ne_of_gt htag.positive, by simp, by simp⟩

/-- The octets are forms of the fields, one after the other. -/
inductive AreForms : List Token → Bytes → Prop
  | nil : AreForms [] []
  | cons {t : Token} {ts : List Token} {bs rest : Bytes} (h : t.IsForm bs)
    (hrest : AreForms ts rest) : AreForms (t :: ts) (bs ++ rest)

theorem Token.IsForm.areForms {t : Token} {bs : Bytes} (h : t.IsForm bs) : AreForms [t] bs := by
  have hforms := AreForms.cons h .nil
  rwa [List.append_nil] at hforms

theorem scan_of_areForms (budget : Nat) {ts : List Token} {bs : Bytes} (h : AreForms ts bs) :
    scan budget bs = (ts, true) := by
  induction h with
  | nil => exact scan_nil budget
  | cons hfirst _ ih =>
      rw [scan_token (Token.read_of_isForm hfirst _) (Token.isField_of_isForm hfirst), ih]

variable {M : Type} {apply : M → Token → Except Fault M}

/-- Forms of fields are read into a message by taking up the fields. -/
theorem readInto_of_areForms (budget : Nat) {ts : List Token} {bs : Bytes} (h : AreForms ts bs)
    (m : M) : readInto apply budget m bs = ts.foldlM apply m := by
  rw [readInto, scan_of_areForms budget h]
  cases ts.foldlM apply m <;> rfl

theorem readInto_nil (budget : Nat) (m : M) : readInto apply budget m [] = .ok m :=
  readInto_of_areForms budget .nil m

end InviteLink.Wire
