import InviteLink.Text.Quoted
import InviteLink.Proofs.Text.Hex

set_option autoImplicit false

/-! # Nothing that is quoted is lost

Between quotes a code point is written as itself or as a backslash, a key and as many digits as the
key asks for (`quotePoint_cases`), and the key with its digits says which code point it was
(`ofEscape`). So none is written as the beginning of another (`quotePoint_append_inj`), and whoever
sees a quoted text knows the text (`quoted_injective`). -/

namespace InviteLink

/-! ## One code point -/

/-- The marks that a text is quoted with. -/
def IsQuoteMark (mark : Char) : Prop := mark = '\x22' ∨ mark = '\x27'

theorem isQuoteMark_quoteMark (t : Text) : IsQuoteMark (quoteMark t) := by
  unfold quoteMark
  split_ifs
  · exact Or.inl rfl
  · exact Or.inr rfl

/-- How many digits follow a key. -/
def escapeWidth (key : Char) : Nat :=
  if key = 'x' then 2 else if key = 'u' then 4 else if key = 'U' then 8 else 0

/-- The code point that a key with its digits stands for. -/
def ofEscape (key : Char) (digits : ScalarText) : CodePoint :=
  if key = 'n' then '\n'
  else if key = 'r' then '\r'
  else if key = 't' then '\t'
  else if escapeWidth key = 0 then key
  else CodePoint.ofNat (hexNumber digits)

/-- Whether `written` is a backslash, a key and the digits that the key asks for, which together
    stand for `c`. -/
def IsEscapeOf (c : CodePoint) (written : ScalarText) : Prop :=
  ∃ key digits, written = '\\' :: key :: digits
    ∧ digits.length = escapeWidth key ∧ ofEscape key digits = c

theorem isEscapeOf_hexDigits {key : Char} {n : Nat} (hkey : key = 'x' ∨ key = 'u' ∨ key = 'U')
    (hn : n < Nat.pow 16 (escapeWidth key)) :
    IsEscapeOf (.ofNat n) ('\\' :: key :: hexDigits .lower (escapeWidth key) n) := by
  have hnumber := hexNumber_hexDigits .lower hn
  refine ⟨key, _, rfl, length_hexDigits _ _ _, ?_⟩
  rcases hkey with rfl | rfl | rfl <;>
    · rw [ofEscape, hnumber]
      rfl

theorem isEscapeOf_numberEscape {n : Nat} (hn : n < 0x110000) :
    IsEscapeOf (.ofNat n) (numberEscape n) := by
  unfold numberEscape
  split_ifs with htwo hfour
  · exact isEscapeOf_hexDigits (.inl rfl) htwo
  · exact isEscapeOf_hexDigits (.inr (.inl rfl)) hfour
  · exact isEscapeOf_hexDigits (.inr (.inr rfl)) (Nat.lt_trans hn (by decide))

/-- A code point is written as itself or as an escape that says which one it is. -/
theorem quotePoint_cases {mark : Char} (hmark : IsQuoteMark mark) (c : CodePoint) :
    (∃ plain : Char, c = plain ∧ quotePoint mark c = [plain] ∧ plain ≠ '\\')
      ∨ IsEscapeOf c (quotePoint mark c) := by
  have hnumber := isEscapeOf_numberEscape c.toNat_lt
  rw [CodePoint.ofNat_toNat] at hnumber
  cases c with
  | surrogate offset => exact Or.inr hnumber
  | char c =>
      simp only [quotePoint]
      split_ifs with hself hnewline hreturn htab hprintable
      · have hc : c = mark ∨ c = '\\' := by simpa using hself
        refine Or.inr ⟨c, [], rfl, ?_⟩
        rcases hc with rfl | rfl
        · rcases hmark with rfl | rfl <;> exact ⟨rfl, rfl⟩
        · exact ⟨rfl, rfl⟩
      · exact Or.inr ⟨'n', [], rfl, rfl, by rw [hnewline]; rfl⟩
      · exact Or.inr ⟨'r', [], rfl, rfl, by rw [hreturn]; rfl⟩
      · exact Or.inr ⟨'t', [], rfl, rfl, by rw [htab]; rfl⟩
      · have hplain : ¬(c = mark ∨ c = '\\') := by simpa using hself
        exact Or.inl ⟨c, rfl, rfl, fun h => hplain (Or.inr h)⟩
      · exact Or.inr hnumber

/-- What is written of one code point is no beginning of what is written of another. -/
theorem quotePoint_append_inj {mark : Char} {c c' : CodePoint} (hmark : IsQuoteMark mark)
    {rest rest' : ScalarText} (h : quotePoint mark c ++ rest = quotePoint mark c' ++ rest') :
    c = c' ∧ rest = rest' := by
  obtain ⟨plain, hc, hq, hplain⟩ | ⟨key, digits, hq, hlength, hc⟩ := quotePoint_cases hmark c
  all_goals
    obtain ⟨plain', hc', hq', hplain'⟩ | ⟨key', digits', hq', hlength', hc'⟩ :=
      quotePoint_cases hmark c'
  all_goals
    rw [hq, hq'] at h
    simp only [List.cons_append, List.nil_append, List.cons.injEq] at h
  · exact ⟨by rw [hc, hc', h.1], h.2⟩
  · exact absurd h.1 hplain
  · exact absurd h.1.symm hplain'
  · obtain ⟨-, rfl, h⟩ := h
    -- the same key asks for the same number of digits
    obtain ⟨rfl, rfl⟩ := List.append_inj h (hlength.trans hlength'.symm)
    exact ⟨hc.symm.trans hc', rfl⟩

/-! ## Texts -/

theorem quotePoint_ne_nil {mark : Char} (hmark : IsQuoteMark mark) (c : CodePoint) :
    quotePoint mark c ≠ [] := by
  obtain ⟨plain, -, hq, -⟩ | ⟨key, digits, hq, -⟩ := quotePoint_cases hmark c
  · simp [hq]
  · simp [hq]

theorem flatMap_quotePoint_inj {mark : Char} (hmark : IsQuoteMark mark) {t t' : Text}
    (h : t.flatMap (quotePoint mark) = t'.flatMap (quotePoint mark)) : t = t' := by
  induction t generalizing t' with
  | nil =>
      cases t' with
      | nil => rfl
      | cons c' rest' =>
          have hnil := (List.append_eq_nil_iff.1 h.symm).1
          exact absurd hnil (quotePoint_ne_nil hmark c')
  | cons c rest ih =>
      cases t' with
      | nil =>
          have hnil := (List.append_eq_nil_iff.1 h).1
          exact absurd hnil (quotePoint_ne_nil hmark c)
      | cons c' rest' =>
          rw [List.flatMap_cons, List.flatMap_cons] at h
          obtain ⟨rfl, hrest⟩ := quotePoint_append_inj hmark h
          rw [ih hrest]

/-- A quoted text tells which text it is. -/
theorem quoted_injective : Function.Injective quoted := by
  intro t t' h
  have hlist := String.ofList_injective h
  simp only [List.cons_append, List.cons.injEq] at hlist
  obtain ⟨hmark, hbody⟩ := hlist
  rw [hmark] at hbody
  exact flatMap_quotePoint_inj (isQuoteMark_quoteMark t') (List.append_cancel_right hbody)

end InviteLink
