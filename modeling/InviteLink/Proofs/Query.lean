import InviteLink.Proofs.Text.Hex
import InviteLink.Proofs.Text.Utf8
import InviteLink.Query

set_option autoImplicit false

/-! # Query texts lose nothing

An octet is written as one character that stands for itself, or as an escape
(`escapeOctet_cases`). Either is read as the octet and nothing else (`pieces_escapeOctet`), so a
name or a value is read as the text whose octets were written (`unescape_escape`). What is written
holds neither of the two separators (`mem_escape`), so the pairs are told apart again
(`decode_encode`), and every percent sign in it begins an escape (`wellEscaped_encode`). -/

namespace InviteLink.Query

/-! ## One octet -/

/-- What reading makes of a code point before it looks for escapes. -/
def plusToSpace (c : CodePoint) : CodePoint := if c = '+' then .char ' ' else c

/-- The characters of an escaped text. -/
def isEscapedChar (c : CodePoint) : Bool :=
  c == '%' || c == '+' || (c.toNat < 128 && isUnreserved (UInt8.ofNat c.toNat))

theorem isUnreserved_char {b : UInt8} (hb : isUnreserved b = true) :
    (CodePoint.ofNat b.toNat).toNat = b.toNat ∧ b.toNat < 128 ∧ CodePoint.ofNat b.toNat ≠ '%'
      ∧ CodePoint.ofNat b.toNat ≠ '+' := by
  have hall : ∀ n < 256, isUnreserved (UInt8.ofNat n) = true →
      (CodePoint.ofNat n).toNat = n ∧ n < 128 ∧ CodePoint.ofNat n ≠ '%'
        ∧ CodePoint.ofNat n ≠ '+' := by decide +kernel
  exact hall b.toNat b.toNat_lt (by rwa [UInt8.ofNat_toNat])

/-- Hexadecimal digits stand for themselves. -/
theorem isEscapedChar_of_hexValue? {c : CodePoint} {v : Nat} (h : hexValue? c = some v) :
    isEscapedChar c = true ∧ c ≠ '%' ∧ plusToSpace c = c := by
  have hall : ∀ n < 128, (hexValue? (CodePoint.ofNat n)).isSome = true →
      isEscapedChar (CodePoint.ofNat n) = true ∧ CodePoint.ofNat n ≠ '%'
        ∧ plusToSpace (CodePoint.ofNat n) = CodePoint.ofNat n := by decide +kernel
  have hascii : c.toNat < 128 := by
    unfold hexValue? at h
    dsimp only at h
    split_ifs at h <;> omega
  have hdigit := hall c.toNat hascii
  rw [CodePoint.ofNat_toNat, h] at hdigit
  exact hdigit rfl

theorem plusToSpace_ne_percent {c : CodePoint} (hc : c ≠ '%') : plusToSpace c ≠ '%' := by
  unfold plusToSpace
  split_ifs
  · decide
  · exact hc

/-- An octet is written as one character, which is no percent sign and is read as the octet, or as
    an escape of its two hexadecimal digits. -/
theorem escapeOctet_cases (b : UInt8) :
    (∃ c, escapeOctet b = [c] ∧ c ≠ '%' ∧ isEscapedChar c = true
      ∧ (plusToSpace c).toNat = b.toNat ∧ b.toNat < 128)
    ∨ ∃ h l, escapeOctet b = [.char '%', h, l] ∧ hexValue? h = some (b.toNat / 16)
      ∧ hexValue? l = some (b.toNat % 16) := by
  unfold escapeOctet
  split_ifs with hb hspace
  · left
    obtain ⟨hnat, hascii, hpercent, hplus⟩ := isUnreserved_char hb
    have hself : plusToSpace (CodePoint.ofNat b.toNat) = CodePoint.ofNat b.toNat := if_neg hplus
    refine ⟨_, rfl, hpercent, ?_, by rw [hself, hnat], hascii⟩
    simp [isEscapedChar, hnat, hascii, hb]
  · left
    exact ⟨'+', rfl, by decide, by decide, by rw [hspace]; rfl, by omega⟩
  · right
    have hlt := b.toNat_lt
    have hhigh := hexValue?_hexDigit .upper (b.toNat / 16)
    rw [Nat.mod_eq_of_lt (by omega)] at hhigh
    exact ⟨_, _, rfl, hhigh, hexValue?_hexDigit .upper b.toNat⟩

theorem pieces_cons {c : CodePoint} (hc : c ≠ '%') (rest : Text) :
    pieces (c :: rest)
      = (if c.toNat < 128 then .octet (UInt8.ofNat c.toNat) else .beyond c) :: pieces rest := by
  rw [pieces.eq_def]
  split
  · next heq => exact absurd (List.cons.inj heq).1 hc
  · next heq =>
      obtain ⟨rfl, rfl⟩ := List.cons.inj heq
      rfl
  · next heq => simp at heq

theorem pieces_escape {h l : CodePoint} {a b : Nat} (hh : hexValue? h = some a)
    (hl : hexValue? l = some b) (rest : Text) :
    pieces (.char '%' :: h :: l :: rest) = .octet (UInt8.ofNat (16 * a + b)) :: pieces rest := by
  rw [pieces, hh, hl]

/-- What is written for an octet is read as the octet, whatever follows. -/
theorem pieces_escapeOctet (b : UInt8) (rest : Text) :
    pieces ((escapeOctet b).map plusToSpace ++ rest) = .octet b :: pieces rest := by
  -- a space is written as a plus, which is a space again before any piece is read
  rcases escapeOctet_cases b with ⟨c, hwritten, hc, -, hnat, hascii⟩ | ⟨h, l, hwritten, hh, hl⟩
  · rw [hwritten, List.map_singleton, List.singleton_append,
      pieces_cons (plusToSpace_ne_percent hc), hnat, if_pos hascii, UInt8.ofNat_toNat]
  · have hvalue : 16 * (b.toNat / 16) + b.toNat % 16 = b.toNat := by omega
    obtain ⟨-, -, hhself⟩ := isEscapedChar_of_hexValue? hh
    obtain ⟨-, -, hlself⟩ := isEscapedChar_of_hexValue? hl
    rw [hwritten, List.map_cons, List.map_cons, List.map_singleton, hhself, hlself]
    show pieces (.char '%' :: h :: l :: rest) = _
    rw [pieces_escape hh hl, hvalue, UInt8.ofNat_toNat]

theorem wellEscaped_cons {c : CodePoint} (hc : c ≠ '%') (rest : Text) :
    wellEscaped (c :: rest) = wellEscaped rest := by
  simp [wellEscaped, hc]

/-- What is written for an octet is no bad escape and begins none. -/
theorem wellEscaped_escapeOctet (b : UInt8) (rest : Text) :
    wellEscaped (escapeOctet b ++ rest) = wellEscaped rest := by
  rcases escapeOctet_cases b with ⟨c, hwritten, hc, -⟩ | ⟨h, l, hwritten, hh, hl⟩
  · rw [hwritten, List.singleton_append, wellEscaped_cons hc]
  · obtain ⟨-, hhpercent, -⟩ := isEscapedChar_of_hexValue? hh
    obtain ⟨-, hlpercent, -⟩ := isEscapedChar_of_hexValue? hl
    rw [hwritten]
    show wellEscaped (.char '%' :: h :: l :: rest) = _
    rw [wellEscaped, wellEscaped_cons hhpercent, wellEscaped_cons hlpercent]
    simp [hh, hl]

/-! ## Names and values -/

theorem pieces_flatMap_escapeOctet (bs : Bytes) :
    pieces ((bs.flatMap escapeOctet).map plusToSpace) = bs.map .octet := by
  induction bs with
  | nil => rfl
  | cons b bs ih =>
      rw [List.flatMap_cons, List.map_append, pieces_escapeOctet, ih, List.map_cons]

theorem joinRuns_map_octet (bs : Bytes) : joinRuns (bs.map .octet) = (bs, .ok []) := by
  induction bs with
  | nil => rfl
  | cons b bs ih => rw [List.map_cons, joinRuns, ih]

theorem unescape_eq (t : Text) :
    unescape t = (Utf8.decode (joinRuns (pieces (t.map plusToSpace))).1).bind fun run =>
      (joinRuns (pieces (t.map plusToSpace))).2.bind fun more =>
        .ok (run.map .char ++ more) := rfl

/-- What is escaped is read back. -/
theorem unescape_escape (t : ScalarText) : unescape (escape t) = .ok (t.map .char) := by
  have hparts : joinRuns (pieces ((escape t).map plusToSpace)) = (Utf8.encode t, .ok []) := by
    rw [escape, pieces_flatMap_escapeOctet, joinRuns_map_octet]
  rw [unescape_eq, hparts, Utf8.decode_encode]
  simp only [Except.bind, List.append_nil]

theorem mem_escape {c : CodePoint} {t : ScalarText} (hc : c ∈ escape t) :
    isEscapedChar c = true := by
  obtain ⟨b, -, hcb⟩ := List.mem_flatMap.1 hc
  rcases escapeOctet_cases b with ⟨d, hwritten, -, hd, -⟩ | ⟨h, l, hwritten, hh, hl⟩
  · rw [hwritten, List.mem_singleton] at hcb
    rwa [hcb]
  · rw [hwritten] at hcb
    simp only [List.mem_cons, List.not_mem_nil, or_false] at hcb
    rcases hcb with rfl | rfl | rfl
    · rfl
    · exact (isEscapedChar_of_hexValue? hh).1
    · exact (isEscapedChar_of_hexValue? hl).1

theorem wellEscaped_escape_append (t : ScalarText) (rest : Text) :
    wellEscaped (escape t ++ rest) = wellEscaped rest := by
  rw [escape]
  induction Utf8.encode t with
  | nil => rfl
  | cons b bs ih => rw [List.flatMap_cons, List.append_assoc, wellEscaped_escapeOctet, ih]

/-! ## Pairs -/

theorem not_mem_escape {c : CodePoint} (hc : isEscapedChar c = false) (t : ScalarText) :
    c ∉ escape t := by
  intro h
  rw [mem_escape h] at hc
  exact absurd hc (by decide)

/-- The texts of a pair of characters. -/
def asTexts : ScalarText × ScalarText → Text × Text := Prod.map (List.map .char) (List.map .char)

theorem decodePair_encodePair (p : ScalarText × ScalarText) :
    decodePair (encodePair p) = .ok (asTexts p) := by
  have hcut : cut '=' (encodePair p) = (escape p.1, some (escape p.2)) :=
    cut_eq_iff.2 ⟨rfl, not_mem_escape (by decide) p.1⟩
  rw [decodePair, hcut]
  show (unescape (escape p.1)).bind (fun name =>
    (unescape (escape p.2)).bind fun value => Except.ok (name, value)) = _
  rw [unescape_escape, unescape_escape]
  rfl

theorem encodePair_ne_nil (p : ScalarText × ScalarText) : encodePair p ≠ [] := by
  simp [encodePair]

theorem ampersand_not_mem_encodePair (p : ScalarText × ScalarText) : .char '&' ∉ encodePair p := by
  rw [encodePair, List.mem_append, List.mem_cons]
  rintro (h | h | h)
  · exact not_mem_escape (by decide) p.1 h
  · exact absurd h (by decide)
  · exact not_mem_escape (by decide) p.2 h

theorem encode_eq_intercalate (pairs : List (ScalarText × ScalarText)) :
    encode pairs = [CodePoint.char '&'].intercalate (pairs.map encodePair) := by
  induction pairs with
  | nil => rfl
  | cons p rest ih =>
      cases rest with
      | nil => simp [encode, List.intercalate]
      | cons q rest =>
          rw [encode, ih]
          · simp [List.intercalate]
          · simp

/-- The pairs that were written are read back, in their order. -/
theorem decode_encode (pairs : List (ScalarText × ScalarText)) :
    decode (encode pairs) = .ok (pairs.map asTexts) := by
  have hpairs : (pairs.map encodePair).mapM decodePair = .ok (pairs.map asTexts) := by
    induction pairs with
    | nil => rfl
    | cons p rest ih =>
        rw [List.map_cons, List.mapM_cons, decodePair_encodePair, ih]
        rfl
  cases hcase : pairs with
  | nil => rfl
  | cons p rest =>
      have hsplit : (encode pairs).splitOn (.char '&') = pairs.map encodePair := by
        rw [encode_eq_intercalate, List.splitOn_intercalate]
        · intro piece hpiece
          obtain ⟨q, -, rfl⟩ := List.mem_map.1 hpiece
          exact ampersand_not_mem_encodePair q
        · simp [hcase]
      -- no piece is empty, as each has its equals sign
      have hfilter : (pairs.map encodePair).filter (· ≠ []) = pairs.map encodePair := by
        rw [List.filter_eq_self]
        intro piece hpiece
        obtain ⟨q, -, rfl⟩ := List.mem_map.1 hpiece
        simpa using encodePair_ne_nil q
      rw [← hcase, decode, hsplit, hfilter, hpairs]

/-- Every percent sign that is written begins an escape. -/
theorem wellEscaped_encode (pairs : List (ScalarText × ScalarText)) :
    wellEscaped (encode pairs) = true := by
  have hpair : ∀ (p : ScalarText × ScalarText) (rest : Text),
      wellEscaped (encodePair p ++ rest) = wellEscaped rest := by
    intro p rest
    rw [encodePair, List.append_assoc, wellEscaped_escape_append, List.cons_append,
      wellEscaped_cons (by decide), wellEscaped_escape_append]
  induction pairs with
  | nil => rfl
  | cons p rest ih =>
      cases rest with
      | nil =>
          have h := hpair p []
          rwa [List.append_nil] at h
      | cons q rest =>
          rw [encode, hpair, wellEscaped_cons (by decide), ih]
          simp

end InviteLink.Query
