set_option autoImplicit false

/-! # Text and octets

A text is the sequence of its code points: lengths, positions and cuts count code points and
nothing else. Surrogates are code points too, though no characters: half of a surrogate pair can
come in with JSON text, and it stays in the text that it came with. UTF-8 can write the texts of
characters only. An octet string is the sequence of its octets. All of these are lists, so every
reader in this library recurses on its input and hands back the rest of it. -/

namespace InviteLink

/-! ## Code points -/

/-- A code point: a character, or a surrogate, given by its distance from the first of them. -/
inductive CodePoint
  | char (c : Char)
  | surrogate (offset : Fin 0x800)
  deriving DecidableEq, Repr

instance : Coe Char CodePoint := ⟨.char⟩

namespace CodePoint

/-- The number of a code point. -/
def toNat : CodePoint → Nat
  | .char c => c.toNat
  | .surrogate offset => 0xD800 + offset

/-- The code point of a number; a number beyond the last gives the first. -/
def ofNat (n : Nat) : CodePoint :=
  if h : 0xD800 ≤ n ∧ n < 0xE000 then .surrogate ⟨n - 0xD800, by omega⟩ else .char (Char.ofNat n)

/-- Whether a code point is no character. -/
def isSurrogate : CodePoint → Bool
  | .char _ => false
  | .surrogate _ => true

/-- The small letter of an ASCII capital, and any other code point itself. -/
def toLower : CodePoint → CodePoint
  | .char c => .char c.toLower
  | .surrogate offset => .surrogate offset

end CodePoint

theorem toNat_ofNat_scalar {n : Nat} (h : n < 0xD800 ∨ 0xE000 ≤ n ∧ n < 0x110000) :
    (Char.ofNat n).toNat = n := by
  have hvalid : n.isValidChar := by
    rcases h with h | ⟨h, h'⟩
    · exact Or.inl h
    · exact Or.inr ⟨by omega, h'⟩
  rw [Char.ofNat, dif_pos hvalid]
  rfl

/-- A character is no surrogate and has at most 21 bits. -/
theorem toNat_scalar (c : Char) : c.toNat < 0xD800 ∨ 0xDFFF < c.toNat ∧ c.toNat < 0x110000 :=
  c.valid

namespace CodePoint

@[simp] theorem toNat_char (c : Char) : (char c).toNat = c.toNat := rfl

@[simp] theorem toNat_surrogate (offset : Fin 0x800) :
    (surrogate offset).toNat = 0xD800 + offset := rfl

theorem toNat_ofNat {n : Nat} (h : n < 0x110000) : (ofNat n).toNat = n := by
  unfold ofNat
  split
  · next hrange => exact Nat.add_sub_cancel' hrange.1
  · next hrange => exact toNat_ofNat_scalar (by omega)

theorem ofNat_toNat_char (c : Char) : ofNat c.toNat = char c := by
  have hscalar := toNat_scalar c
  rw [ofNat, dif_neg (by omega), Char.ofNat_toNat]

/-- A code point is found by its number. -/
theorem ofNat_toNat (c : CodePoint) : ofNat c.toNat = c := by
  cases c with
  | char c => exact ofNat_toNat_char c
  | surrogate offset =>
    have hlt := offset.isLt
    rw [toNat_surrogate, ofNat, dif_pos ⟨by omega, by omega⟩]
    simp only [Nat.add_sub_cancel_left]

theorem toNat_lt (c : CodePoint) : c.toNat < 0x110000 := by
  cases c with
  | char c =>
    have hscalar := toNat_scalar c
    rw [toNat_char]
    omega
  | surrogate offset =>
    have hlt := offset.isLt
    rw [toNat_surrogate]
    omega

end CodePoint

/-! ## Texts -/

/-- A text, code point by code point. -/
abbrev Text := List CodePoint

/-- A text of characters only. -/
abbrev ScalarText := List Char

/-- An octet string. -/
abbrev Bytes := List UInt8

end InviteLink

/-- The text of a string. -/
def String.points (s : String) : InviteLink.Text := s.toList.map .char

namespace InviteLink

@[simp] theorem length_points (s : String) : s.points.length = s.length := by
  rw [String.points, List.length_map, String.length_toList]

theorem nodup_points {s : String} (h : s.toList.Nodup) : s.points.Nodup :=
  List.Pairwise.map CodePoint.char (fun _ _ hne => mt CodePoint.char.inj hne) h

/-- The text as a string, in which the replacement character stands for every surrogate. -/
def Text.shown (t : Text) : String :=
  String.ofList (t.map fun
    | .char c => c
    | .surrogate _ => '\uFFFD')

/-! ## Cutting -/

/-- What stands before the first `sep`, and what stands after it if there is one. -/
def cut (sep : CodePoint) : Text → Text × Option Text
  | [] => ([], none)
  | c :: rest =>
    if c = sep then ([], some rest) else (c :: (cut sep rest).1, (cut sep rest).2)

/-- Cutting loses nothing: the two parts and the separator between them are the text again. -/
theorem cut_some {sep : CodePoint} {t before after : Text} (h : cut sep t = (before, some after)) :
    t = before ++ sep :: after := by
  induction t generalizing before with
  | nil => simp [cut] at h
  | cons c rest ih =>
    rw [cut] at h
    split at h
    · next hc =>
      simp only [Prod.mk.injEq, Option.some.injEq] at h
      obtain ⟨rfl, rfl⟩ := h
      simp [hc]
    · simp only [Prod.mk.injEq] at h
      obtain ⟨rfl, h2⟩ := h
      rw [List.cons_append, ← ih (Prod.ext rfl h2)]

/-- The first part never holds the separator. -/
theorem not_mem_cut (sep : CodePoint) (t : Text) : sep ∉ (cut sep t).1 := by
  induction t with
  | nil => simp [cut]
  | cons c rest ih =>
    rw [cut]
    split
    · simp
    · next hc => simpa [List.mem_cons, ih] using fun h => hc h.symm

/-- A text that is not cut is the first part. -/
theorem cut_none {sep : CodePoint} {t before : Text} (h : cut sep t = (before, none)) :
    t = before := by
  induction t generalizing before with
  | nil => exact (Prod.mk.inj h).1
  | cons c rest ih =>
    rw [cut] at h
    split at h
    · simp at h
    · simp only [Prod.mk.injEq] at h
      obtain ⟨rfl, h2⟩ := h
      exact congrArg (c :: ·) (ih (Prod.ext rfl h2))

/-- A separator and the part behind it as they stand in a text: nothing if there is no such part. -/
def behind (sep : CodePoint) : Option Text → Text
  | none => []
  | some after => sep :: after

/-- Cutting finds the one way in which a text has a first part without the separator. -/
theorem cut_eq_iff {sep : CodePoint} {t before : Text} {after : Option Text} :
    cut sep t = (before, after) ↔ t = before ++ behind sep after ∧ sep ∉ before := by
  constructor
  · intro h
    refine ⟨?_, by simpa [h] using not_mem_cut sep t⟩
    cases after with
    | none => rw [behind, List.append_nil, cut_none h]
    | some after => exact cut_some h
  · rintro ⟨rfl, hsep⟩
    induction before with
    | nil =>
      cases after with
      | none => rfl
      | some after => rw [List.nil_append, behind, cut, if_pos rfl]
    | cons c before ih =>
      simp only [List.mem_cons, not_or] at hsep
      rw [List.cons_append, cut, if_neg (Ne.symm hsep.1), ih hsep.2]

end InviteLink
