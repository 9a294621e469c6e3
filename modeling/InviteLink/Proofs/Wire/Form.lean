import InviteLink.Proofs.Text.Utf8
import InviteLink.Wire.Message

set_option autoImplicit false

/-! # The forms of a field

The wire format leaves its writers some freedom: a number may have empty groups behind its last
digit, and that goes for tags, lengths and values alike. This is the grammar of numbers and fields,
whoever writes them, said without the reader (`Varint.IsForm`, `Token.IsForm`). Every form of a
field is read as the field, whatever follows it (`Token.read_of_isForm`), and what this library
writes is one of the forms (`isForm_writeVarint`, `isForm_writeChunk`). -/

namespace InviteLink.Wire

/-! ## Numbers -/

/-- The octets are a form of the number: seven bits each, lowest first, and every octet but the
    last has its high bit set. -/
inductive Varint.IsForm : Nat → Bytes → Prop
  | last {b : UInt8} (hb : b.toNat < 0x80) : IsForm b.toNat [b]
  | more {b : UInt8} {n : Nat} {bs : Bytes} (hb : 0x80 ≤ b.toNat) (h : IsForm n bs) :
    IsForm (b.toNat - 0x80 + 0x80 * n) (b :: bs)

theorem Varint.read_of_isForm {n : Nat} {bs : Bytes} (h : IsForm n bs) (rest : Bytes) :
    read (bs ++ rest) = some (⟨n, bs.length⟩, rest) := by
  induction h with
  | last hb =>
      rw [List.singleton_append, read, if_pos hb]
      rfl
  | more hb _ ih =>
      rw [List.cons_append, read, if_neg (by omega), ih, Option.map_some]
      rfl

/-- The shortest form is a form. -/
theorem Varint.isForm_write (n : Nat) : IsForm n (write n) := by
  -- behind the first octet stands the quotient, written in the same way
  induction n using Nat.strongRecOn with
  | ind n ih =>
      rw [write]
      split_ifs with h
      · have hoctet : (UInt8.ofNat n).toNat = n := toNat_ofNat_octet (by omega)
        have hform := IsForm.last (b := UInt8.ofNat n) (by omega)
        rwa [hoctet] at hform
      · have hoctet : (UInt8.ofNat (n % 0x80 + 0x80)).toNat = n % 0x80 + 0x80 :=
          toNat_ofNat_octet (by omega)
        have hvalue : n % 0x80 + 0x80 - 0x80 + 0x80 * (n / 0x80) = n := by omega
        have hform := IsForm.more (b := UInt8.ofNat (n % 0x80 + 0x80)) (by omega)
          (ih (n / 0x80) (by omega))
        rwa [hoctet, hvalue] at hform

/-- A number of `7 * k` bits takes at most `k` octets. -/
theorem Varint.length_write_le {k n : Nat} (hk : 0 < k) (hn : n < Nat.pow 0x80 k) :
    (Varint.write n).length ≤ k := by
  induction k generalizing n with
  | zero => omega
  | succ k ih =>
      rw [Varint.write]
      split_ifs with h
      · exact hk
      · have hpow : Nat.pow 0x80 (k + 1) = Nat.pow 0x80 k * 0x80 := rfl
        have hdiv : n / 0x80 < Nat.pow 0x80 k := by omega
        -- a number below one has no quotient to write
        have hpos : 0 < k := by
          rcases Nat.eq_zero_or_pos k with rfl | hpos
          · have hone : Nat.pow 0x80 0 = 1 := rfl
            omega
          · exact hpos
        have hrest := ih hpos hdiv
        rw [List.length_cons]
        omega

theorem readNumber_of_isForm {fits : Varint → Bool} {n : Nat} {bs : Bytes}
    (h : Varint.IsForm n bs) (hfits : fits ⟨n, bs.length⟩ = true) (rest : Bytes) :
    readNumber fits (bs ++ rest) = some (n, rest) := by
  simp only [readNumber, Varint.read_of_isForm h, hfits, if_true]

theorem takeExactly_append {n : Nat} {bs : Bytes} (h : bs.length = n) (rest : Bytes) :
    takeExactly n (bs ++ rest) = some (bs, rest) := by
  subst h
  induction bs with
  | nil => rfl
  | cons b bs ih => simp [takeExactly, ih]

/-! ## Fields -/

/-- The tag of a field: a number of at most 32 bits in at most five octets. -/
structure IsTag (number shape : Nat) (bs : Bytes) : Prop where
  positive : 0 < number
  bounded : 8 * number + shape < 0x100000000
  form : Varint.IsForm (8 * number + shape) bs
  short : bs.length ≤ shortLimit

/-- A length: at most five octets, or the shortest form of a number that needs more. -/
structure IsLength (n : Nat) (bs : Bytes) : Prop where
  form : Varint.IsForm n bs
  short : bs.length ≤ shortLimit ∨ bs = Varint.write n

/-- The octets are a field as any writer may write it: a number of at most 64 bits, eight or four
    octets, or a run of octets with its length in front. -/
inductive Token.IsForm : Token → Bytes → Prop
  | varint {number n : Nat} {tag value : Bytes} (htag : IsTag number 0 tag)
    (hvalue : Varint.IsForm n value) (hshort : value.length ≤ longLimit)
    (hbounded : n < 0x10000000000000000) : IsForm ⟨number, .varint n⟩ (tag ++ value)
  | fixed64 {number : Nat} {tag bs : Bytes} (htag : IsTag number 1 tag) (hlength : bs.length = 8) :
    IsForm ⟨number, .fixed64 bs⟩ (tag ++ bs)
  | chunk {number : Nat} {tag length bs : Bytes} (htag : IsTag number 2 tag)
    (hlength : IsLength bs.length length) : IsForm ⟨number, .chunk bs⟩ (tag ++ (length ++ bs))
  | fixed32 {number : Nat} {tag bs : Bytes} (htag : IsTag number 5 tag) (hlength : bs.length = 4) :
    IsForm ⟨number, .fixed32 bs⟩ (tag ++ bs)

/-- The tag of a field is read as its number and shape. -/
theorem Token.read_of_isTag {number shape : Nat} {tag : Bytes} (h : IsTag number shape tag)
    (hshape : shape < 8) (bs : Bytes) :
    Token.read (tag ++ bs) = (Payload.read shape bs).map fun r => (⟨number, r.1⟩, r.2) := by
  have hfits : fitsTag ⟨8 * number + shape, tag.length⟩ = true := by
    simp [fitsTag, h.short, h.bounded]
  have hmod : (8 * number + shape) % 8 = shape := by omega
  have hdiv : (8 * number + shape) / 8 = number := by omega
  simp only [Token.read, readNumber_of_isForm h.form hfits, hmod, hdiv]

theorem IsLength.fits {n : Nat} {bs : Bytes} (h : IsLength n bs) :
    fitsLength ⟨n, bs.length⟩ = true := by
  rcases h.short with hshort | rfl
  · simp [fitsLength, hshort]
  · simp [fitsLength]

/-- A form of a field is read as the field, whatever follows it. -/
theorem Token.read_of_isForm {t : Token} {bs : Bytes} (h : t.IsForm bs) (rest : Bytes) :
    Token.read (bs ++ rest) = some (t, rest) := by
  cases h with
  | @varint number n tag value htag hvalue hshort hbounded =>
      have hfits : fitsField ⟨n, value.length⟩ = true := decide_eq_true hshort
      rw [List.append_assoc, read_of_isTag htag (by decide)]
      simp only [Payload.read, readNumber_of_isForm hvalue hfits, Option.map_some,
        Nat.mod_eq_of_lt hbounded]
  | fixed64 htag hlength =>
      rw [List.append_assoc, read_of_isTag htag (by decide)]
      simp only [Payload.read, takeExactly_append hlength, Option.map_some]
  | chunk htag hlength =>
      rw [List.append_assoc, read_of_isTag htag (by decide), List.append_assoc]
      simp only [Payload.read, readNumber_of_isForm hlength.form hlength.fits,
        takeExactly_append rfl, Option.map_some]
  | fixed32 htag hlength =>
      rw [List.append_assoc, read_of_isTag htag (by decide)]
      simp only [Payload.read, takeExactly_append hlength, Option.map_some]

/-! ## The forms that are written here -/

theorem isTag_writeTag {number shape : Nat} (hpos : 0 < number) (hnumber : number < 16)
    (hshape : shape < 8) : IsTag number shape (writeTag number shape) where
  positive := hpos
  bounded := by omega
  form := Varint.isForm_write _
  short := Varint.length_write_le (by decide)
    (Nat.lt_of_lt_of_le (by omega : 8 * number + shape < 0x80) (by decide))

theorem isForm_writeVarint {number n : Nat} (hpos : 0 < number) (hnumber : number < 16)
    (hn : n < 0x10000000000000000) : Token.IsForm ⟨number, .varint n⟩ (writeVarint number n) :=
  .varint (isTag_writeTag hpos hnumber (by decide)) (Varint.isForm_write n)
    (Varint.length_write_le (by decide) (Nat.lt_trans hn (by decide))) hn

theorem isForm_writeChunk {number : Nat} (hpos : 0 < number) (hnumber : number < 16) (bs : Bytes) :
    Token.IsForm ⟨number, .chunk bs⟩ (writeChunk number bs) := by
  rw [writeChunk, List.append_assoc]
  exact .chunk (isTag_writeTag hpos hnumber (by decide)) ⟨Varint.isForm_write _, .inr rfl⟩

end InviteLink.Wire
