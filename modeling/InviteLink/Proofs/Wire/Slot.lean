import InviteLink.Proofs.Wire.Token
import Mathlib.Data.List.Basic

set_option autoImplicit false

/-! # Fields in any order

What a message states is a list of slots: the number of a field, the payloads that state its value,
and whether the field may be left out. The slots say nothing of the order in which a writer puts the
fields, nor of what else the writer puts between them (`Writes`).

Reading does not depend on either: the fields under one number stay the same however the fields of
a message are arranged (`Holds`). So if one more field turns the part of a message that its numbers
account for into the part with one more number, and the other fields change nothing, all writers of
a message are read as the message (`readInto_of_writes`). -/

namespace InviteLink.Wire

/-- A field that a message states or may state. -/
structure Slot where
  number : Nat
  States : Payload → Prop
  Optional : Prop

/-! ## Writing slots -/

/-- The fields state the slots, one field for each slot, except that an optional one may have
    none. -/
inductive Stated : List Slot → List Token → Prop
  | nil : Stated [] []
  | put {slot : Slot} {slots : List Slot} {p : Payload} {ts : List Token} (hp : slot.States p)
    (h : Stated slots ts) : Stated (slot :: slots) (⟨slot.number, p⟩ :: ts)
  | skip {slot : Slot} {slots : List Slot} {ts : List Token} (hoptional : slot.Optional)
    (h : Stated slots ts) : Stated (slot :: slots) ts

/-- The octets state the slots in any order, with any fields of other numbers among them. -/
def Writes (slots : List Slot) (bs : Bytes) : Prop :=
  ∃ stated foreign ts, Stated slots stated ∧ (∀ t ∈ foreign, t.number ∉ slots.map Slot.number)
    ∧ ts.Perm (stated ++ foreign) ∧ AreForms ts bs

/-- A chunk of octets, which may be left out if there are none. -/
def bytesSlot (number : Nat) (bs : Bytes) : Slot := ⟨number, (· = .chunk bs), bs = []⟩

/-- A text, which may be left out if it is empty. -/
def textSlot (number : Nat) (t : ScalarText) : Slot := bytesSlot number (Utf8.encode t)

/-- A number of an enumeration, which may be left out if it is zero. -/
def numberSlot (number : Nat) (n : Int) : Slot :=
  ⟨number, (· = .varint (n % 0x10000000000000000).toNat), n = 0⟩

/-- An inner message with the given slots; without any there must be no field. -/
def messageSlot (number : Nat) (inner : Option (List Slot)) : Slot :=
  ⟨number, fun p => ∃ slots bs, inner = some slots ∧ Writes slots bs ∧ p = .chunk bs, inner = none⟩

theorem optional_textSlot_iff {number : Nat} {t : ScalarText} :
    (textSlot number t).Optional ↔ t = [] :=
  Utf8.encode_eq_nil_iff

section Inner

variable {α : Type} {slots : α → List Slot} {inner : Option α} {number : Nat}

theorem optional_messageSlot_iff :
    (messageSlot number (inner.map slots)).Optional ↔ inner = none :=
  Option.map_eq_none_iff

/-- What states an inner message is a chunk of octets in which some writer wrote it. -/
theorem states_messageSlot_iff {p : Payload} :
    (messageSlot number (inner.map slots)).States p
      ↔ ∃ m bs, inner = some m ∧ Writes (slots m) bs ∧ p = .chunk bs := by
  constructor
  · rintro ⟨_, bs, hslots, hwrites, hp⟩
    obtain ⟨m, hm, rfl⟩ := Option.map_eq_some_iff.1 hslots
    exact ⟨m, bs, hm, hwrites, hp⟩
  · rintro ⟨m, bs, rfl, hwrites, hp⟩
    exact ⟨slots m, bs, rfl, hwrites, hp⟩

end Inner

/-! ## The fields under a number -/

/-- The fields of a number. -/
def underNumber (n : Nat) (ts : List Token) : List Token := ts.filter fun t => t.number == n

theorem underNumber_append (n : Nat) (ts ts' : List Token) :
    underNumber n (ts ++ ts') = underNumber n ts ++ underNumber n ts' :=
  List.filter_append ts ts'

theorem underNumber_eq_nil_iff {n : Nat} {ts : List Token} :
    underNumber n ts = [] ↔ ∀ t ∈ ts, t.number ≠ n := by
  simp [underNumber]

/-- For each slot the fields of its number are one that states it, or none if it is optional. -/
def Holds (slots : List Slot) (ts : List Token) : Prop :=
  ∀ slot ∈ slots, (∃ p, slot.States p ∧ underNumber slot.number ts = [⟨slot.number, p⟩])
    ∨ (slot.Optional ∧ underNumber slot.number ts = [])

theorem Stated.number_mem {slots : List Slot} {ts : List Token} (h : Stated slots ts) :
    ∀ t ∈ ts, t.number ∈ slots.map Slot.number := by
  induction h with
  | nil => simp
  | put _ _ ih => simpa using fun t ht => Or.inr (by simpa using ih t ht)
  | skip _ _ ih => simpa using fun t ht => Or.inr (by simpa using ih t ht)

theorem Stated.holds {slots : List Slot} {ts : List Token} (h : Stated slots ts)
    (hnodup : (slots.map Slot.number).Nodup) : Holds slots ts := by
  induction h with
  | nil => simp [Holds]
  | @put slot slots p ts hp h ih =>
      obtain ⟨hfirst, hrest⟩ := List.nodup_cons.1 hnodup
      have hnone : underNumber slot.number ts = [] :=
        underNumber_eq_nil_iff.2 fun t ht hnumber => hfirst (hnumber ▸ h.number_mem t ht)
      intro other hother
      rcases List.mem_cons.1 hother with rfl | hother
      · exact .inl ⟨p, hp, by simpa [underNumber] using hnone⟩
      · have hne : slot.number ≠ other.number := fun heq =>
          hfirst (heq ▸ List.mem_map_of_mem hother)
        have hskip : underNumber other.number (⟨slot.number, p⟩ :: ts)
            = underNumber other.number ts := by simp [underNumber, hne]
        rw [hskip]
        exact ih hrest other hother
  | @skip slot slots ts hoptional h ih =>
      obtain ⟨hfirst, hrest⟩ := List.nodup_cons.1 hnodup
      intro other hother
      rcases List.mem_cons.1 hother with rfl | hother
      · exact .inr ⟨hoptional,
          underNumber_eq_nil_iff.2 fun t ht hnumber => hfirst (hnumber ▸ h.number_mem t ht)⟩
      · exact ih hrest other hother

/-- Neither the order of the fields nor those of other numbers matter to the slots. -/
theorem Holds.of_perm {slots : List Slot} {stated foreign ts : List Token} (h : Holds slots stated)
    (hforeign : ∀ t ∈ foreign, t.number ∉ slots.map Slot.number)
    (hperm : ts.Perm (stated ++ foreign)) : Holds slots ts := by
  intro slot hslot
  have hnone : underNumber slot.number foreign = [] :=
    underNumber_eq_nil_iff.2 fun t ht hnumber =>
      hforeign t ht (hnumber ▸ List.mem_map_of_mem hslot)
  have hunder : (underNumber slot.number ts).Perm (underNumber slot.number stated) := by
    have hfilter := hperm.filter fun t => t.number == slot.number
    rwa [← underNumber, ← underNumber, underNumber_append, hnone, List.append_nil] at hfilter
  rcases h slot hslot with ⟨p, hp, hstated⟩ | ⟨hoptional, hstated⟩
  · rw [hstated] at hunder
    exact .inl ⟨p, hp, List.perm_singleton.1 hunder⟩
  · rw [hstated] at hunder
    exact .inr ⟨hoptional, List.perm_nil.1 hunder⟩

/-! ## Reading -/

/-- Whether one of the fields has the number. -/
def hasNumber (ts : List Token) (n : Nat) : Bool := ts.any fun t => t.number == n

theorem hasNumber_eq_false_iff {ts : List Token} {n : Nat} :
    hasNumber ts n = false ↔ underNumber n ts = [] := by
  simp [hasNumber, underNumber]

/-- A field of the number of a slot states the slot, and is the first of its number. -/
theorem Holds.states {slots : List Slot} {slot : Slot} {done rest : List Token} {t : Token}
    (h : Holds slots (done ++ t :: rest)) (hslot : slot ∈ slots) (ht : t.number = slot.number) :
    slot.States t.payload ∧ hasNumber done slot.number = false := by
  have hunder : underNumber slot.number (done ++ t :: rest)
      = underNumber slot.number done ++ t :: underNumber slot.number rest := by
    simp [underNumber, ht]
  rw [hasNumber_eq_false_iff]
  rcases h slot hslot with ⟨p, hp, hone⟩ | ⟨-, hnone⟩
  · rw [hunder, List.append_eq_singleton_iff] at hone
    rcases hone with ⟨hdone, hone⟩ | ⟨-, hrest⟩
    · rw [(List.cons.inj hone).1]
      exact ⟨hp, hdone⟩
    · cases hrest
  · rw [hunder] at hnone
    simp at hnone

variable {M : Type} {apply : M → Token → Except Fault M}

/-- If every field turns what stands for the fields in front of it into what stands for them and
    itself, all fields are taken up. -/
theorem foldlM_of_step {part : List Token → M} {ts : List Token}
    (hstep : ∀ done t rest, ts = done ++ t :: rest →
      apply (part done) t = .ok (part (done ++ [t]))) :
    ts.foldlM apply (part []) = .ok (part ts) := by
  have hfrom : ∀ rest done, ts = done ++ rest → rest.foldlM apply (part done) = .ok (part ts) := by
    intro rest
    induction rest with
    | nil =>
        intro done hdone
        rw [hdone, List.append_nil]
        rfl
    | cons t rest ih =>
        intro done hdone
        rw [List.foldlM_cons, hstep done t rest hdone]
        exact ih (done ++ [t]) (by rw [hdone, List.append_assoc]; rfl)
  exact hfrom ts [] rfl

/-- The part of a message that the numbers of some fields account for. Nothing is accounted for at
    first; a field that states its slot accounts for its number, any other field for none; and
    what may be left out need not be accounted for. -/
structure Accounts (apply : M → Token → Except Fault M) (slots : List Slot) (empty m : M)
    (part : (Nat → Bool) → M) : Prop where
  nodup : (slots.map Slot.number).Nodup
  nothing : part (fun _ => false) = empty
  step : ∀ seen t, (∀ slot ∈ slots, t.number = slot.number →
    slot.States t.payload ∧ seen slot.number = false) →
    apply (part seen) t = .ok (part fun n => seen n || t.number == n)
  everything : ∀ seen, (∀ slot ∈ slots, seen slot.number = false → slot.Optional) → part seen = m

/-- All writers of a message are read as the message. -/
theorem readInto_of_writes {slots : List Slot} {empty m : M} {part : (Nat → Bool) → M}
    (haccounts : Accounts apply slots empty m part) (budget : Nat) {bs : Bytes}
    (h : Writes slots bs) : readInto apply budget empty bs = .ok m := by
  obtain ⟨stated, foreign, ts, hstated, hforeign, hperm, hforms⟩ := h
  have hholds : Holds slots ts := (hstated.holds haccounts.nodup).of_perm hforeign hperm
  have hstep : ∀ done t rest, ts = done ++ t :: rest →
      apply (part (hasNumber done)) t = .ok (part (hasNumber (done ++ [t]))) := by
    intro done t rest hts
    have hseen : hasNumber (done ++ [t]) = fun n => hasNumber done n || t.number == n := by
      funext n
      simp [hasNumber]
    rw [hseen]
    exact haccounts.step _ t fun slot hslot ht => (hts ▸ hholds).states hslot ht
  have hfold : ts.foldlM apply (part (hasNumber [])) = .ok (part (hasNumber ts)) :=
    foldlM_of_step hstep
  have hall : part (hasNumber ts) = m := by
    refine haccounts.everything _ fun slot hslot hleft => ?_
    rw [hasNumber_eq_false_iff] at hleft
    rcases hholds slot hslot with ⟨p, -, hone⟩ | ⟨hoptional, -⟩
    · rw [hleft] at hone
      cases hone
    · exact hoptional
  rw [readInto_of_areForms budget hforms, ← haccounts.nothing, ← hall]
  exact hfold

/-! ## The slots that are written here -/

/-- The octets are a form of a field that states the slot, or nothing if the slot is optional. -/
def Slot.PutAs (slot : Slot) (bs : Bytes) : Prop :=
  (∃ p, slot.States p ∧ Token.IsForm ⟨slot.number, p⟩ bs) ∨ (slot.Optional ∧ bs = [])

/-- Slots that are put one after the other are written. -/
theorem writes_of_putAs {slots : List Slot} {octets : List Bytes}
    (h : List.Forall₂ Slot.PutAs slots octets) : Writes slots octets.flatten := by
  have hstated : ∃ ts, Stated slots ts ∧ AreForms ts octets.flatten := by
    induction h with
    | nil => exact ⟨[], .nil, .nil⟩
    | cons hput _ ih =>
        obtain ⟨ts, hstated, hforms⟩ := ih
        rcases hput with ⟨p, hp, hform⟩ | ⟨hoptional, rfl⟩
        · exact ⟨_, .put hp hstated, .cons hform hforms⟩
        · exact ⟨ts, .skip hoptional hstated, hforms⟩
  obtain ⟨ts, hstated, hforms⟩ := hstated
  exact ⟨ts, [], ts, hstated, by simp, by simp, hforms⟩

theorem putAs_putBytes {number : Nat} (hpos : 0 < number) (hnumber : number < 16) (bs : Bytes) :
    (bytesSlot number bs).PutAs (putBytes number bs) := by
  rw [putBytes]
  split_ifs with hbs
  · exact .inr ⟨hbs, rfl⟩
  · exact .inl ⟨_, rfl, isForm_writeChunk hpos hnumber bs⟩

theorem putAs_putText {number : Nat} (hpos : 0 < number) (hnumber : number < 16) (t : ScalarText) :
    (textSlot number t).PutAs (putText number t) :=
  putAs_putBytes hpos hnumber _

theorem putAs_putNumber {number : Nat} (hpos : 0 < number) (hnumber : number < 16) (n : Int) :
    (numberSlot number n).PutAs (putNumber number n) := by
  rw [putNumber]
  split_ifs with hn
  · exact .inr ⟨hn, rfl⟩
  · exact .inl ⟨_, rfl, isForm_writeVarint hpos hnumber (by omega)⟩

theorem putAs_putMessage {number : Nat} (hpos : 0 < number) (hnumber : number < 16) {α : Type}
    {slots : α → List Slot} {write : α → Bytes} (hwrites : ∀ m, Writes (slots m) (write m))
    (inner : Option α) :
    (messageSlot number (inner.map slots)).PutAs (putMessage number (inner.map write)) := by
  cases inner with
  | none => exact .inr ⟨rfl, rfl⟩
  | some m => exact .inl ⟨_, ⟨_, _, rfl, hwrites m, rfl⟩, isForm_writeChunk hpos hnumber _⟩

end InviteLink.Wire
