import InviteLink.Wire.Varint

set_option autoImplicit false

/-! # Tokens of the wire format

A message is a run of tokens. Each starts with a tag, which holds a field number and the shape of
what follows: a varint, a fixed run of octets, a run with its length in front, or the opening or
closing mark of a group. -/

namespace InviteLink.Wire

/-! ## Numbers in front -/

/-- The most octets that a tag or the long form of a length may take. -/
def shortLimit : Nat := 5

/-- The most octets that a number in a field may take. -/
def longLimit : Nat := 10

/-- The number in front that meets a condition, and what follows it. -/
def readNumber (fits : Varint → Bool) (bs : Bytes) : Option (Nat × Bytes) :=
  match Varint.read bs with
  | some (v, rest) => if fits v then some (v.value, rest) else none
  | none => none

theorem readNumber_shortens {fits : Varint → Bool} {bs rest : Bytes} {n : Nat}
    (h : readNumber fits bs = some (n, rest)) : rest.length < bs.length := by
  unfold readNumber at h
  split at h
  · next v rest' hv =>
    split at h
    · simp only [Option.some.injEq, Prod.mk.injEq] at h
      have := Varint.size_add_length hv
      rw [← h.2]
      omega
    · simp at h
  · simp at h

/-- A tag is below two to the 32. -/
def fitsTag (v : Varint) : Bool := v.size ≤ shortLimit && v.value < 0x100000000

/-- A number in a field is judged by its size alone. -/
def fitsField (v : Varint) : Bool := v.size ≤ longLimit

/-- A length takes few octets, unless its shortest form takes more. -/
def fitsLength (v : Varint) : Bool :=
  v.size ≤ shortLimit || v.size == (Varint.write v.value).length

/-- The first `n` octets and the rest, if there are that many. -/
def takeExactly : (n : Nat) → Bytes → Option (Bytes × Bytes)
  | 0, bs => some ([], bs)
  | _ + 1, [] => none
  | n + 1, b :: rest => (takeExactly n rest).map fun r => (b :: r.1, r.2)

theorem append_of_takeExactly {n : Nat} {bs front rest : Bytes}
    (h : takeExactly n bs = some (front, rest)) : bs = front ++ rest ∧ front.length = n := by
  induction n generalizing bs front with
  | zero =>
    simp only [takeExactly, Option.some.injEq, Prod.mk.injEq] at h
    obtain ⟨rfl, rfl⟩ := h
    exact ⟨rfl, rfl⟩
  | succ n ih =>
    cases bs with
    | nil => simp [takeExactly] at h
    | cons b bs =>
      simp only [takeExactly, Option.map_eq_some_iff, Prod.mk.injEq] at h
      obtain ⟨r, hr, rfl, rfl⟩ := h
      obtain ⟨hb, hl⟩ := ih hr
      exact ⟨by rw [hb, List.cons_append], by rw [List.length_cons, hl]⟩

theorem takeExactly_length {n : Nat} {bs front rest : Bytes}
    (h : takeExactly n bs = some (front, rest)) : rest.length ≤ bs.length := by
  rw [(append_of_takeExactly h).1, List.length_append]
  omega

/-! ## Tokens -/

/-- What follows a tag. -/
inductive Payload
  | varint (n : Nat)
  | fixed64 (bs : Bytes)
  | chunk (bs : Bytes)
  | opening
  | closing
  | fixed32 (bs : Bytes)
  deriving DecidableEq

/-- A field number and what stands under it. -/
structure Token where
  number : Nat
  payload : Payload
  deriving DecidableEq

/-- The payload of the given shape, and what follows it. A number keeps its low 64 bits. -/
def Payload.read (shape : Nat) (bs : Bytes) : Option (Payload × Bytes) :=
  match shape with
  | 0 => (readNumber fitsField bs).map fun r => (.varint (r.1 % 0x10000000000000000), r.2)
  | 1 => (takeExactly 8 bs).map fun r => (.fixed64 r.1, r.2)
  | 2 =>
    match readNumber fitsLength bs with
    | some (n, rest) => (takeExactly n rest).map fun r => (.chunk r.1, r.2)
    | none => none
  | 3 => some (.opening, bs)
  | 4 => some (.closing, bs)
  | 5 => (takeExactly 4 bs).map fun r => (.fixed32 r.1, r.2)
  | _ => none

theorem Payload.read_length {shape : Nat} {bs rest : Bytes} {p : Payload}
    (h : Payload.read shape bs = some (p, rest)) : rest.length ≤ bs.length := by
  unfold Payload.read at h
  split at h
  · simp only [Option.map_eq_some_iff, Prod.mk.injEq] at h
    obtain ⟨r, hr, -, rfl⟩ := h
    exact Nat.le_of_lt (readNumber_shortens hr)
  · simp only [Option.map_eq_some_iff, Prod.mk.injEq] at h
    obtain ⟨r, hr, -, rfl⟩ := h
    exact takeExactly_length hr
  · split at h
    · next n rest' hn =>
      simp only [Option.map_eq_some_iff, Prod.mk.injEq] at h
      obtain ⟨r, hr, -, rfl⟩ := h
      exact Nat.le_trans (takeExactly_length hr) (Nat.le_of_lt (readNumber_shortens hn))
    · simp at h
  · simp only [Option.some.injEq, Prod.mk.injEq] at h
    exact Nat.le_of_eq (congrArg List.length h.2.symm)
  · simp only [Option.some.injEq, Prod.mk.injEq] at h
    exact Nat.le_of_eq (congrArg List.length h.2.symm)
  · simp only [Option.map_eq_some_iff, Prod.mk.injEq] at h
    obtain ⟨r, hr, -, rfl⟩ := h
    exact takeExactly_length hr
  · simp at h

/-- The token in front, and what follows it. -/
def Token.read (bs : Bytes) : Option (Token × Bytes) :=
  match readNumber fitsTag bs with
  | some (tag, rest) => (Payload.read (tag % 8) rest).map fun r => (⟨tag / 8, r.1⟩, r.2)
  | none => none

/-- A token takes at least one octet. -/
theorem Token.read_shortens {bs rest : Bytes} {t : Token} (h : Token.read bs = some (t, rest)) :
    rest.length < bs.length := by
  unfold Token.read at h
  split at h
  · next tag rest' htag =>
    simp only [Option.map_eq_some_iff, Prod.mk.injEq] at h
    obtain ⟨r, hr, -, rfl⟩ := h
    exact Nat.lt_of_le_of_lt (Payload.read_length hr) (readNumber_shortens htag)
  · simp at h

/-! ## Writing -/

/-- The tag of a field. -/
def writeTag (number shape : Nat) : Bytes := Varint.write (8 * number + shape)

/-- A field that holds a number. -/
def writeVarint (number n : Nat) : Bytes := writeTag number 0 ++ Varint.write n

/-- A field that holds octets, with their length in front. -/
def writeChunk (number : Nat) (bs : Bytes) : Bytes :=
  writeTag number 2 ++ Varint.write bs.length ++ bs

end InviteLink.Wire
