import InviteLink.Proofs.Wire.Message

set_option autoImplicit false

/-! # Octets behind a message

A token says where it ends, so it is read the same whatever octets follow it
(`Token.read_append`), and so is a group that is passed over up to its closing mark
(`skipGroups_append`). The fields of sound octets are therefore fields of any octets that begin with
them (`scan_append`): reading a message with more octets behind it means reading on from the message
(`readInto_append`). In particular a last field that states the kind replaces the kind and disturbs
nothing else, however the octets in front of it were written (`InviteMessage.read_append_kind`). -/

namespace InviteLink.Wire

/-! ## Tokens -/

theorem Varint.read_append {bs rest : Bytes} {v : Varint} (h : Varint.read bs = some (v, rest))
    (more : Bytes) : Varint.read (bs ++ more) = some (v, rest ++ more) := by
  induction bs generalizing v with
  | nil => simp [Varint.read] at h
  | cons b bs ih =>
      rw [Varint.read] at h
      rw [List.cons_append, Varint.read]
      split_ifs at h ⊢ with hlast
      · simp only [Option.some.injEq, Prod.mk.injEq] at h
        obtain ⟨rfl, rfl⟩ := h
        rfl
      · obtain ⟨⟨w, rest'⟩, hr, hw⟩ := Option.map_eq_some_iff.1 h
        simp only [Prod.mk.injEq] at hw
        obtain ⟨rfl, rfl⟩ := hw
        rw [ih hr, Option.map_some]

theorem readNumber_append {fits : Varint → Bool} {bs rest : Bytes} {n : Nat}
    (h : readNumber fits bs = some (n, rest)) (more : Bytes) :
    readNumber fits (bs ++ more) = some (n, rest ++ more) := by
  unfold readNumber at h
  split at h
  · next v rest' hv =>
      split_ifs at h with hfits
      simp only [Option.some.injEq, Prod.mk.injEq] at h
      obtain ⟨rfl, rfl⟩ := h
      simp only [readNumber, Varint.read_append hv, hfits, if_true]
  · cases h

theorem takeExactly_append_of_some {n : Nat} {bs front rest : Bytes}
    (h : takeExactly n bs = some (front, rest)) (more : Bytes) :
    takeExactly n (bs ++ more) = some (front, rest ++ more) := by
  obtain ⟨rfl, rfl⟩ := append_of_takeExactly h
  rw [List.append_assoc, takeExactly_append rfl]

theorem Payload.read_append {shape : Nat} {bs rest : Bytes} {p : Payload}
    (h : Payload.read shape bs = some (p, rest)) (more : Bytes) :
    Payload.read shape (bs ++ more) = some (p, rest ++ more) := by
  unfold Payload.read at h ⊢
  split at h
  · obtain ⟨r, hr, hp⟩ := Option.map_eq_some_iff.1 h
    cases hp
    simp only [readNumber_append hr, Option.map_some]
  · obtain ⟨r, hr, hp⟩ := Option.map_eq_some_iff.1 h
    cases hp
    simp only [takeExactly_append_of_some hr, Option.map_some]
  · split at h
    · next n rest' hn =>
        obtain ⟨r, hr, hp⟩ := Option.map_eq_some_iff.1 h
        cases hp
        simp only [readNumber_append hn, takeExactly_append_of_some hr, Option.map_some]
    · cases h
  · cases h
    rfl
  · cases h
    rfl
  · obtain ⟨r, hr, hp⟩ := Option.map_eq_some_iff.1 h
    cases hp
    simp only [takeExactly_append_of_some hr, Option.map_some]
  · cases h

/-- A token is read the same whatever follows it. -/
theorem Token.read_append {bs rest : Bytes} {t : Token} (h : Token.read bs = some (t, rest))
    (more : Bytes) : Token.read (bs ++ more) = some (t, rest ++ more) := by
  unfold Token.read at h
  split at h
  · next tag rest' htag =>
      obtain ⟨r, hr, ht⟩ := Option.map_eq_some_iff.1 h
      cases ht
      simp only [Token.read, readNumber_append htag, Payload.read_append hr, Option.map_some]
  · cases h

/-! ## Groups -/

/-- Inside open groups a token opens another one, closes the innermost or is passed over. -/
theorem skipGroups_cons {budget top : Nat} {below : List Nat} {bs rest : Bytes} {t : Token}
    (h : Token.read bs = some (t, rest)) :
    skipGroups budget (top :: below) bs
      = match t.payload with
        | .opening =>
          if (top :: below).length < budget then skipGroups budget (t.number :: top :: below) rest
          else none
        | .closing => if t.number = top then skipGroups budget below rest else none
        | _ => skipGroups budget (top :: below) rest := by
  rw [skipGroups]
  split
  · next hnone =>
      rw [h] at hnone
      cases hnone
  · next t' rest' hsome =>
      rw [h] at hsome
      cases hsome
      rfl

/-- Groups are passed over up to their closing marks, whatever follows these. -/
theorem skipGroups_append {budget : Nat} {stack : List Nat} {bs rest : Bytes}
    (h : skipGroups budget stack bs = some rest) (more : Bytes) :
    skipGroups budget stack (bs ++ more) = some (rest ++ more) := by
  fun_induction skipGroups budget stack bs with
  | case1 bs =>
      cases h
      rw [skipGroups]
  | case2 => cases h
  | case3 bs top below t rest' hread _ hopening hroom ih =>
      rw [if_pos hroom] at h
      rw [skipGroups_cons (Token.read_append hread more), hopening]
      exact (if_pos hroom).trans (ih h)
  | case4 bs top below t rest' hread _ hopening hroom =>
      rw [if_neg hroom] at h
      cases h
  | case5 bs below t rest' hread _ hclosing ih =>
      rw [skipGroups_cons (Token.read_append hread more), hclosing]
      exact (if_pos rfl).trans (ih h)
  | case6 => cases h
  | case7 bs top below t rest' hread _ hopening hclosing ih =>
      rw [skipGroups_cons (Token.read_append hread more)]
      split
      · next hp => exact absurd hp hopening
      · next hp => exact absurd hp hclosing
      · exact ih h

/-! ## Fields -/

/-- A group takes no part in a message: the fields go on behind the group. -/
theorem scan_group {budget : Nat} {bs rest rest' : Bytes} {t : Token}
    (h : Token.read bs = some (t, rest)) (hnumber : t.number ≠ 0) (hopening : t.payload = .opening)
    (hbudget : budget ≠ 0) (hgroup : skipGroups budget [t.number] rest = some rest') :
    scan budget bs = scan budget rest' := by
  rw [scan_of_read h, if_neg hnumber, hopening]
  dsimp only
  rw [if_neg hbudget, hgroup]

/-- Sound octets have their fields in front of any others. -/
theorem scan_append {budget : Nat} {bs : Bytes} (h : (scan budget bs).2 = true) (more : Bytes) :
    scan budget (bs ++ more)
      = ((scan budget bs).1 ++ (scan budget more).1, (scan budget more).2) := by
  fun_induction scan budget bs with
  | case1 => rfl
  | case7 bs _ t rest hread _ hnumber hopening hbudget rest' hgroup _ ih =>
      rw [scan_group (Token.read_append hread more) hnumber hopening hbudget
        (skipGroups_append hgroup more), ih h]
  | case8 bs _ t rest hread _ hnumber hclosing hopening ih =>
      rw [scan_token (Token.read_append hread more) ⟨hnumber, hopening, hclosing⟩, ih h]
      rfl
  -- in all other cases the octets are not sound
  | case2 | case3 | case4 | case5 | case6 => cases h

variable {M : Type} {apply : M → Token → Except Fault M} {budget : Nat}

/-- Octets that are read into a message leave the octets behind them to be read into it. -/
theorem readInto_append {m m' : M} {bs : Bytes} (h : readInto apply budget m bs = .ok m')
    (more : Bytes) : readInto apply budget m (bs ++ more) = readInto apply budget m' more := by
  unfold readInto at h
  split at h
  · cases h
  · next m₁ hfold =>
      split_ifs at h with hsound
      cases h
      have hfields : (scan budget (bs ++ more)).1.foldlM apply m
          = (scan budget more).1.foldlM apply m' := by
        rw [scan_append hsound, List.foldlM_append, hfold]
        rfl
      rw [readInto, readInto, hfields, scan_append hsound]

/-! ## The link message -/

/-- A last field that states the kind replaces the kind and nothing else, however the octets in
    front of it were written. -/
theorem InviteMessage.read_append_kind {bs : Bytes} {m : InviteMessage} (h : read bs = .ok m)
    {n : Int} (hn : FitsSigned32 n) (hn0 : n ≠ 0) :
    read (bs ++ putNumber 1 n) = .ok { m with kind := n } := by
  have hkind : apply m ⟨1, .varint (n % 0x10000000000000000).toNat⟩
      = .ok { m with kind := n } := by
    rw [apply, signed32_emod hn]
  have hform : Token.IsForm ⟨1, .varint (n % 0x10000000000000000).toNat⟩ (putNumber 1 n) := by
    rw [putNumber, if_neg hn0]
    exact isForm_writeVarint (by decide) (by decide) (by omega)
  rw [read, readInto_append h, readInto_of_areForms depthLimit hform.areForms, List.foldlM_cons,
    hkind]
  rfl

end InviteLink.Wire
