import InviteLink.Proofs.Outcome
import InviteLink.Proofs.Query
import InviteLink.Proofs.Text.Utf8.Strict

set_option autoImplicit false

/-! # Which query texts are read

A query text is read when every percent sign in it begins an escape (`EscapesAll`) and each name
and each value is readable: every run of ASCII characters in it spells octets (`Spells`), and these
are the UTF-8 octets of some text (`IsReadable`). Reading walks over pieces and joins octets to
runs as it goes; `exists_runs` says that these are the runs of the text itself. -/

namespace InviteLink.Query

/-! ## Escapes -/

/-- Two hexadecimal digits stand in front. -/
def BeginsWithHexPair (t : Text) : Prop :=
  ∃ h l rest, t = h :: l :: rest ∧ (hexValue? h).isSome = true ∧ (hexValue? l).isSome = true

/-- Every percent sign is followed by two hexadecimal digits. -/
def EscapesAll (t : Text) : Prop :=
  ∀ before after, t = before ++ .char '%' :: after → BeginsWithHexPair after

@[simp] theorem beginsWithHexPair_cons_cons {h l : CodePoint} {rest : Text} :
    BeginsWithHexPair (h :: l :: rest)
      ↔ (hexValue? h).isSome = true ∧ (hexValue? l).isSome = true := by
  constructor
  · rintro ⟨h', l', rest', htext, hh, hl⟩
    simp only [List.cons.injEq] at htext
    obtain ⟨rfl, rfl, -⟩ := htext
    exact ⟨hh, hl⟩
  · rintro ⟨hh, hl⟩
    exact ⟨h, l, rest, rfl, hh, hl⟩

/-- A text shorter than two characters begins with no two digits. -/
theorem not_beginsWithHexPair_of_length_lt {t : Text} (ht : t.length < 2) :
    ¬BeginsWithHexPair t := by
  rintro ⟨h, l, rest, rfl, -⟩
  simp only [List.length_cons] at ht
  omega

theorem wellEscaped_cons_iff {c : CodePoint} {rest : Text} :
    wellEscaped (c :: rest) = true
      ↔ (c = '%' → BeginsWithHexPair rest) ∧ wellEscaped rest = true := by
  by_cases hc : c = '%'
  · subst hc
    match rest with
    | [] => simp [wellEscaped, not_beginsWithHexPair_of_length_lt]
    | [x] => simp [wellEscaped, not_beginsWithHexPair_of_length_lt]
    | x :: y :: rest =>
        rw [wellEscaped, Bool.and_eq_true, Bool.or_eq_true, Bool.and_eq_true,
          ← @beginsWithHexPair_cons_cons x y rest]
        simp
  · rw [wellEscaped_cons hc]
    simp [hc]

theorem wellEscaped_iff {t : Text} : wellEscaped t = true ↔ EscapesAll t := by
  induction t with
  | nil => simp [wellEscaped, EscapesAll]
  | cons c t ih =>
      rw [wellEscaped_cons_iff, ih]
      constructor
      · rintro ⟨hc, ht⟩ before after htext
        cases before with
        | nil =>
            obtain ⟨rfl, rfl⟩ := List.cons.inj htext
            exact hc rfl
        | cons d before =>
            obtain ⟨rfl, rfl⟩ := List.cons.inj htext
            exact ht before after rfl
      · intro h
        refine ⟨?_, fun before after htext => h (c :: before) after (by rw [htext]; rfl)⟩
        rintro rfl
        exact h [] t rfl

/-- No escape reaches beyond a character that is no hexadecimal digit. -/
theorem beginsWithHexPair_append_iff {sep : CodePoint} (hsep : hexValue? sep = none) (a b : Text) :
    BeginsWithHexPair (a ++ sep :: b) ↔ BeginsWithHexPair a := by
  match a with
  | [] =>
      refine iff_of_false ?_ (not_beginsWithHexPair_of_length_lt (by simp))
      rintro ⟨h, l, rest, htext, hh, -⟩
      rw [← (List.cons.inj htext).1, hsep] at hh
      exact absurd hh (by decide)
  | [x] =>
      refine iff_of_false ?_ (not_beginsWithHexPair_of_length_lt (by simp))
      rw [List.singleton_append, beginsWithHexPair_cons_cons, hsep]
      simp
  | x :: y :: a =>
      rw [List.cons_append, List.cons_append, beginsWithHexPair_cons_cons,
        beginsWithHexPair_cons_cons]

theorem wellEscaped_append_iff {sep : CodePoint} (hsep : hexValue? sep = none)
    (hpercent : sep ≠ '%') (a b : Text) :
    wellEscaped (a ++ sep :: b) = true ↔ wellEscaped a = true ∧ wellEscaped b = true := by
  induction a with
  | nil =>
      rw [List.nil_append, wellEscaped_cons hpercent]
      simp [wellEscaped]
  | cons c a ih =>
      rw [List.cons_append, wellEscaped_cons_iff, wellEscaped_cons_iff,
        beginsWithHexPair_append_iff hsep, ih, and_assoc]

/-- The pieces of a text between ampersands are as well escaped as the text. -/
theorem wellEscaped_of_mem_splitOn {t piece : Text} (ht : wellEscaped t = true)
    (hpiece : piece ∈ t.splitOn (.char '&')) : wellEscaped piece = true := by
  have hall : ∀ pieces : List Text, wellEscaped ([CodePoint.char '&'].intercalate pieces) = true →
      ∀ piece ∈ pieces, wellEscaped piece = true := by
    intro pieces
    induction pieces with
    | nil => simp
    | cons first others ih =>
        intro h piece hpiece
        cases others with
        | nil =>
            rw [List.mem_singleton] at hpiece
            simpa [List.intercalate, hpiece] using h
        | cons second others =>
            have hsplit : [CodePoint.char '&'].intercalate (first :: second :: others)
                = first ++ .char '&' :: [CodePoint.char '&'].intercalate (second :: others) := by
              simp [List.intercalate]
            rw [hsplit, wellEscaped_append_iff (by decide) (by decide)] at h
            rcases List.mem_cons.1 hpiece with rfl | hpiece
            · exact h.1
            · exact ih h.2 piece hpiece
  refine hall (t.splitOn (.char '&')) ?_ piece hpiece
  rwa [List.intercalate_splitOn]

/-- The name and the value of a piece are as well escaped as the piece. -/
theorem wellEscaped_cut {piece : Text} (h : wellEscaped piece = true) :
    wellEscaped (cut (.char '=') piece).1 = true
      ∧ wellEscaped ((cut (.char '=') piece).2.getD []) = true := by
  obtain ⟨hpiece, -⟩ := cut_eq_iff.1 (show cut (.char '=') piece = (_, _) from rfl)
  cases hvalue : (cut (.char '=') piece).2 with
  | none =>
      rw [hvalue, behind, List.append_nil] at hpiece
      rw [← hpiece]
      exact ⟨h, rfl⟩
  | some value =>
      rw [hvalue, behind] at hpiece
      rw [hpiece, wellEscaped_append_iff (by decide) (by decide)] at h
      exact h

/-! ## Runs of ASCII characters -/

theorem toNat_lt_of_hexValue? {c : CodePoint} {v : Nat} (h : hexValue? c = some v) :
    c.toNat < 128 := by
  unfold hexValue? at h
  dsimp only at h
  split_ifs at h <;> omega

/-- An ASCII text and the octets that it spells, an escape spelling one. -/
inductive Spells : Text → Bytes → Prop
  | nil : Spells [] []
  | plain {c : CodePoint} {rest : Text} {bs : Bytes} (hc : c ≠ '%') (hascii : c.toNat < 128)
      (hrest : Spells rest bs) : Spells (c :: rest) (UInt8.ofNat c.toNat :: bs)
  | escape {h l : CodePoint} {a b : Nat} {rest : Text} {bs : Bytes} (hh : hexValue? h = some a)
      (hl : hexValue? l = some b) (hrest : Spells rest bs) :
      Spells (.char '%' :: h :: l :: rest) (UInt8.ofNat (16 * a + b) :: bs)

/-- The runs of ASCII characters in a text, between the characters beyond ASCII. -/
def asciiRuns (t : Text) : List Text := t.splitOnP fun c => 128 ≤ c.toNat

/-- Once its pluses are spaces, each run of ASCII characters of a text spells the octets of some
    text. -/
def IsReadable (t : Text) : Prop :=
  ∀ run ∈ asciiRuns (t.map plusToSpace), ∃ s, Spells run (Utf8.encode s)

theorem Spells.unique {t : Text} {bs bs' : Bytes} (h : Spells t bs) (h' : Spells t bs') :
    bs = bs' := by
  induction h generalizing bs' with
  | nil =>
      cases h'
      rfl
  | plain hc _ _ ih =>
      cases h' with
      | plain _ _ hrest => rw [ih hrest]
      | escape => exact absurd rfl hc
  | escape hh hl _ ih =>
      cases h' with
      | plain hc => exact absurd rfl hc
      | escape hh' hl' hrest =>
          rw [hh, Option.some.injEq] at hh'
          rw [hl, Option.some.injEq] at hl'
          rw [ih hrest, hh', hl']

/-- What a run spells is read just when it is the octets of some text. -/
theorem Spells.decode_ok_iff {run : Text} {bs : Bytes} (h : Spells run bs) :
    (∃ s, Utf8.decode bs = .ok s) ↔ ∃ s, Spells run (Utf8.encode s) := by
  constructor
  · rintro ⟨s, hs⟩
    refine ⟨s, ?_⟩
    rwa [Utf8.decode_eq_ok_iff.1 hs]
  · rintro ⟨s, hs⟩
    exact ⟨s, Utf8.decode_eq_ok_iff.2 (hs.unique h)⟩

theorem asciiRuns_cons_of_ascii {c : CodePoint} (hc : c.toNat < 128) (t : Text) :
    asciiRuns (c :: t) = (asciiRuns t).modifyHead (c :: ·) := by
  rw [asciiRuns, List.splitOnP_cons_eq_if_modifyHead, if_neg (by simpa using hc), asciiRuns]

theorem asciiRuns_cons_of_beyond {c : CodePoint} (hc : ¬c.toNat < 128) (t : Text) :
    asciiRuns (c :: t) = [] :: asciiRuns t := by
  rw [asciiRuns, List.splitOnP_cons_eq_if_modifyHead, if_pos (by simpa using hc), asciiRuns]

theorem joinRuns_beyond_ok_iff {c : CodePoint} {rest : List Piece} :
    (∃ s, (joinRuns (.beyond c :: rest)).2 = .ok s)
      ↔ (∃ s, Utf8.decode (joinRuns rest).1 = .ok s) ∧ ∃ s, (joinRuns rest).2 = .ok s := by
  show (∃ s, ((Utf8.decode (joinRuns rest).1).bind fun run =>
    (joinRuns rest).2.bind fun more => .ok (c :: run.map .char ++ more)) = .ok s) ↔ _
  simp [exists_bind_eq_ok_iff]

/-- The octets that are joined are those of the runs of the text: the first run spells the octets
    in front, and what stands behind it is read just when every other run spells a text. -/
theorem exists_runs {t : Text} (ht : wellEscaped t = true) :
    ∃ run runs, asciiRuns t = run :: runs ∧ Spells run (joinRuns (pieces t)).1
      ∧ ((∃ s, (joinRuns (pieces t)).2 = .ok s)
        ↔ ∀ r ∈ runs, ∃ s, Spells r (Utf8.encode s)) := by
  fun_induction pieces t with
  | case1 h l rest a b hl hh ih =>
      obtain ⟨-, hhpercent, -⟩ := isEscapedChar_of_hexValue? hh
      obtain ⟨-, hlpercent, -⟩ := isEscapedChar_of_hexValue? hl
      rw [wellEscaped_cons_iff, wellEscaped_cons hhpercent, wellEscaped_cons hlpercent] at ht
      obtain ⟨run, runs, hruns, hrun, hmore⟩ := ih ht.2
      refine ⟨.char '%' :: h :: l :: run, runs, ?_, .escape hh hl hrun, hmore⟩
      rw [asciiRuns_cons_of_ascii (by decide), asciiRuns_cons_of_ascii (toNat_lt_of_hexValue? hh),
        asciiRuns_cons_of_ascii (toNat_lt_of_hexValue? hl), hruns]
      rfl
  | case2 h l rest hnone ih =>
      -- here a percent sign begins no escape
      rw [wellEscaped_cons_iff, beginsWithHexPair_cons_cons] at ht
      obtain ⟨hh, hl⟩ := ht.1 rfl
      obtain ⟨a, ha⟩ := Option.isSome_iff_exists.1 hh
      obtain ⟨b, hb⟩ := Option.isSome_iff_exists.1 hl
      exact absurd hb (hnone a b ha)
  | case3 c rest hshort ih =>
      rw [wellEscaped_cons_iff] at ht
      have hc : c ≠ '%' := by
        intro hc
        obtain ⟨h, l, rest', hrest, -⟩ := ht.1 hc
        exact hshort h l rest' hc hrest
      obtain ⟨run, runs, hruns, hrun, hmore⟩ := ih ht.2
      by_cases hascii : c.toNat < 128
      · rw [if_pos hascii]
        refine ⟨c :: run, runs, ?_, .plain hc hascii hrun, hmore⟩
        rw [asciiRuns_cons_of_ascii hascii, hruns]
        rfl
      -- the run that was under way is one of those behind the character
      · rw [if_neg hascii]
        refine ⟨[], run :: runs, by rw [asciiRuns_cons_of_beyond hascii, hruns], .nil, ?_⟩
        rw [joinRuns_beyond_ok_iff, List.forall_mem_cons, hrun.decode_ok_iff, hmore]
  | case4 => exact ⟨[], [], rfl, .nil, by simp [joinRuns]⟩

/-! ## Names and values -/

theorem hexValue?_plusToSpace (c : CodePoint) : hexValue? (plusToSpace c) = hexValue? c := by
  by_cases hc : c = '+'
  · rw [hc]
    rfl
  · rw [plusToSpace, if_neg hc]

theorem beginsWithHexPair_map_plusToSpace (t : Text) :
    BeginsWithHexPair (t.map plusToSpace) ↔ BeginsWithHexPair t := by
  match t with
  | [] => rfl
  | [x] =>
      exact iff_of_false (not_beginsWithHexPair_of_length_lt (by simp))
        (not_beginsWithHexPair_of_length_lt (by simp))
  | x :: y :: t =>
      rw [List.map_cons, List.map_cons, beginsWithHexPair_cons_cons, beginsWithHexPair_cons_cons,
        hexValue?_plusToSpace, hexValue?_plusToSpace]

theorem wellEscaped_map_plusToSpace (t : Text) :
    wellEscaped (t.map plusToSpace) = true ↔ wellEscaped t = true := by
  induction t with
  | nil => rfl
  | cons c t ih =>
      have hpercent : plusToSpace c = '%' ↔ c = '%' := by
        by_cases hc : c = '+'
        · rw [hc]
          decide
        · rw [plusToSpace, if_neg hc]
      rw [List.map_cons, wellEscaped_cons_iff, wellEscaped_cons_iff, hpercent,
        beginsWithHexPair_map_plusToSpace, ih]

/-- A name or a value is read just when each of its runs of ASCII characters spells a text. -/
theorem unescape_ok_iff {t : Text} (ht : wellEscaped t = true) :
    (∃ s, unescape t = .ok s) ↔ IsReadable t := by
  rw [← wellEscaped_map_plusToSpace t] at ht
  obtain ⟨run, runs, hruns, hrun, hmore⟩ := exists_runs ht
  rw [IsReadable, hruns, List.forall_mem_cons, ← hmore, ← hrun.decode_ok_iff, unescape_eq]
  simp [exists_bind_eq_ok_iff]

/-- A pair is read when its name and its value are. -/
def IsReadablePair (piece : Text) : Prop :=
  IsReadable (cut (.char '=') piece).1 ∧ IsReadable ((cut (.char '=') piece).2.getD [])

theorem decodePair_ok_iff {piece : Text} (h : wellEscaped piece = true) :
    (∃ p, decodePair piece = .ok p) ↔ IsReadablePair piece := by
  obtain ⟨hname, hvalue⟩ := wellEscaped_cut h
  rw [IsReadablePair, ← unescape_ok_iff hname, ← unescape_ok_iff hvalue]
  show (∃ p, ((unescape (cut (.char '=') piece).1).bind fun name =>
    (unescape ((cut (.char '=') piece).2.getD [])).bind fun value => .ok (name, value)) = .ok p) ↔ _
  simp [exists_bind_eq_ok_iff]

/-! ## Query texts -/

/-- A well escaped query text is read just when the pairs between its ampersands are; empty pieces
    do not matter. -/
theorem decode_ok_iff {t : Text} (ht : wellEscaped t = true) :
    (∃ pairs, decode t = .ok pairs)
      ↔ ∀ piece ∈ t.splitOn (.char '&'), piece ≠ [] → IsReadablePair piece := by
  rw [decode, exists_mapM_eq_ok_iff]
  constructor
  · intro h piece hpiece hne
    rw [← decodePair_ok_iff (wellEscaped_of_mem_splitOn ht hpiece)]
    exact h piece (List.mem_filter.2 ⟨hpiece, by simpa using hne⟩)
  · intro h piece hpiece
    obtain ⟨hpiece, hne⟩ := List.mem_filter.1 hpiece
    rw [decodePair_ok_iff (wellEscaped_of_mem_splitOn ht hpiece)]
    exact h piece hpiece (by simpa using hne)

end InviteLink.Query
