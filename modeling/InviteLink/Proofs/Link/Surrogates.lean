import InviteLink.Proofs.Link.Accepted
import InviteLink.Proofs.Link.Metadata

set_option autoImplicit false

/-! # Where the surrogates of a name come from

Octets spell characters, so the octets of a blob give no surrogate, and neither do the escapes of a
query text. A surrogate in the name that is read off a link therefore stands in the query text as
itself (`Query.surrogate_mem_of_decode`), hence in the link (`Record.surrogate_mem_of_ofLink`), and
what is read off a link of characters is a record whose name can be written
(`Record.isScalar_displayName_of_ofLink`). -/

namespace InviteLink

variable {o : Fin 0x800}

theorem isScalar_iff_surrogate_not_mem {t : Text} :
    t.isScalar = true ↔ ∀ o, CodePoint.surrogate o ∉ t := by
  rw [isScalar_iff]
  constructor
  · intro h o ho
    cases h _ ho
  · intro h c hc
    cases c with
    | char c => rfl
    | surrogate o => exact absurd hc (h o)

theorem surrogate_not_mem_map_char (s : ScalarText) : CodePoint.surrogate o ∉ s.map .char :=
  isScalar_iff_surrogate_not_mem.1 (isScalar_map_char s) o

/-! ## Query texts -/

namespace Query

/-- A piece beyond ASCII is a code point of the text. -/
theorem mem_of_beyond_mem_pieces {c : CodePoint} {t : Text} (h : Piece.beyond c ∈ pieces t) :
    c ∈ t := by
  induction t using pieces.induct with
  | case1 high low rest a b hlow hhigh ih =>
      rw [pieces_escape hhigh hlow, List.mem_cons] at h
      obtain h | h := h
      · cases h
      · simp [ih h]
  | case2 high low rest hnone ih =>
      rw [pieces] at h
      split at h
      · next a b hhigh hlow => exact absurd hlow (fun hlow => hnone a b hhigh hlow)
      · obtain h | h := List.mem_cons.1 h
        · cases h
        · exact List.mem_cons_of_mem _ (ih h)
  | case3 d rest hescape ih =>
      rw [pieces.eq_2 _ _ hescape, List.mem_cons] at h
      obtain h | h := h
      · split_ifs at h
        cases h
        exact List.mem_cons_self
      · exact List.mem_cons_of_mem _ (ih h)
  | case4 => cases h

/-- The octets between the code points beyond ASCII spell characters. -/
theorem surrogate_mem_of_joinRuns {ps : List Piece} {more : Text}
    (h : (joinRuns ps).2 = .ok more) (ho : .surrogate o ∈ more) :
    Piece.beyond (.surrogate o) ∈ ps := by
  induction ps generalizing more with
  | nil =>
      cases h
      cases ho
  | cons p ps ih =>
      cases p with
      | octet b => exact List.mem_cons_of_mem _ (ih h ho)
      | beyond c =>
          obtain ⟨run, -, h⟩ := bind_eq_ok_iff.1 h
          obtain ⟨rest, hrest, hmore⟩ := bind_eq_ok_iff.1 h
          cases hmore
          rw [List.cons_append, List.mem_cons, List.mem_append] at ho
          obtain rfl | ho | ho := ho
          · exact List.mem_cons_self
          · exact absurd ho (surrogate_not_mem_map_char run)
          · exact List.mem_cons_of_mem _ (ih hrest ho)

/-- A surrogate stands for itself. -/
theorem surrogate_mem_of_unescape {t name : Text} (h : unescape t = .ok name)
    (ho : .surrogate o ∈ name) : .surrogate o ∈ t := by
  rw [unescape_eq, bind_eq_ok_iff] at h
  obtain ⟨run, -, h⟩ := h
  obtain ⟨more, hmore, hname⟩ := bind_eq_ok_iff.1 h
  cases hname
  obtain ho | ho := List.mem_append.1 ho
  · exact absurd ho (surrogate_not_mem_map_char run)
  · have hpiece := mem_of_beyond_mem_pieces (surrogate_mem_of_joinRuns hmore ho)
    obtain ⟨c, hc, hcase⟩ := List.mem_map.1 hpiece
    -- a surrogate is no space, which is all that a plus is read as
    unfold plusToSpace at hcase
    split_ifs at hcase
    rwa [← hcase]

/-- What stands in front of the first separator, and behind it, stands in the text. -/
theorem mem_of_mem_cut {sep c : CodePoint} {t : Text}
    (h : c ∈ (cut sep t).1 ∨ c ∈ (cut sep t).2.getD []) : c ∈ t := by
  obtain ⟨ht, -⟩ := cut_eq_iff.1 (show cut sep t = (_, _) from rfl)
  rw [ht, List.mem_append]
  obtain h | h := h
  · exact Or.inl h
  · refine Or.inr ?_
    cases hafter : (cut sep t).2 with
    | none =>
        rw [hafter] at h
        cases h
    | some after =>
        rw [hafter] at h
        exact List.mem_cons_of_mem _ h

theorem surrogate_mem_of_decodePair {piece : Text} {p : Text × Text}
    (h : decodePair piece = .ok p) (ho : .surrogate o ∈ p.2) : .surrogate o ∈ piece := by
  obtain ⟨name, -, h⟩ := bind_eq_ok_iff.1 h
  obtain ⟨value, hvalue, hp⟩ := bind_eq_ok_iff.1 h
  cases hp
  exact mem_of_mem_cut (Or.inr (surrogate_mem_of_unescape hvalue ho))

theorem mem_intercalate {sep piece : Text} {pieces : List Text} {c : CodePoint}
    (hpiece : piece ∈ pieces) (hc : c ∈ piece) : c ∈ sep.intercalate pieces := by
  induction pieces with
  | nil => cases hpiece
  | cons first others ih =>
      cases others with
      | nil =>
          rw [List.mem_singleton] at hpiece
          rwa [List.intercalate_singleton, ← hpiece]
      | cons second others =>
          rw [List.intercalate_cons_cons, List.mem_append]
          obtain rfl | hpiece := List.mem_cons.1 hpiece
          · exact Or.inl (List.mem_append_left _ hc)
          · exact Or.inr (ih hpiece)

theorem mem_of_mem_splitOn {sep c : CodePoint} {t piece : Text} (hpiece : piece ∈ t.splitOn sep)
    (hc : c ∈ piece) : c ∈ t := by
  have hmem : c ∈ [sep].intercalate (t.splitOn sep) := mem_intercalate hpiece hc
  rwa [List.intercalate_splitOn] at hmem

theorem surrogate_mem_of_decode {t : Text} {pairs : List (Text × Text)} {p : Text × Text}
    (h : decode t = .ok pairs) (hp : p ∈ pairs) (ho : .surrogate o ∈ p.2) : .surrogate o ∈ t := by
  obtain ⟨piece, hpiece, hread⟩ := exists_of_mem_mapM h hp
  exact mem_of_mem_splitOn (List.mem_filter.1 hpiece).1 (surrogate_mem_of_decodePair hread ho)

end Query

/-! ## Records -/

namespace Record

/-- A name in octets is one of characters. -/
theorem isScalar_displayName_of_ofMessage {n : Int} {m : Wire.InviteMessage} {r : Record}
    (h : Record.ofMessage n m = .ok r) : r.displayName.isScalar = true := by
  unfold Record.ofMessage at h
  split at h
  · cases h
    exact isScalar_map_char _
  · obtain ⟨g, hg, rfl⟩ := map_eq_ok_iff.1 h
    unfold GroupInvite.ofMessage at hg
    dsimp only at hg
    split at hg
    · cases hg
      exact isScalar_map_char _
    · obtain ⟨d, -, rfl⟩ := map_eq_ok_iff.1 hg
      exact isScalar_map_char _
  · cases h

theorem isScalar_displayName_of_ofOctets {kind : Option Int} {data : Bytes} {r : Record}
    (h : (Record.ofOctets kind data).outcome = .ok r) : r.displayName.isScalar = true := by
  unfold Record.ofOctets at h
  split at h
  · cases h
  · exact isScalar_displayName_of_ofMessage h

end Record

/-- The name that is offered is a value of the query text. -/
theorem WebForm.surrogate_mem_of_offeredName {query : Text} {pairs : List (Text × Text)}
    (h : readMetadata query = .ok pairs) (ho : .surrogate o ∈ offeredName pairs) :
    .surrogate o ∈ query := by
  unfold readMetadata at h
  split_ifs at h
  split at h
  · cases h
  · next all hall =>
      cases h
      rw [offeredName_firstOfEachName, offeredName] at ho
      cases hlookup : all.lookup nameKey with
      | none =>
          rw [hlookup] at ho
          cases ho
      | some value =>
          obtain ⟨before, after, rfl, -⟩ := List.lookup_eq_some_iff.1 hlookup
          rw [hlookup] at ho
          exact Query.surrogate_mem_of_decode hall
            (List.mem_append_right _ List.mem_cons_self) ho

theorem WebForm.surrogate_mem_of_decodeBlob {kind : Kind} {blob query : Text} {r : Record}
    (h : (decodeBlob kind blob query).outcome = .ok r) (ho : .surrogate o ∈ r.displayName) :
    .surrogate o ∈ query := by
  rw [decodeBlob] at h
  simp only [Traced.outcome_bind, bind_eq_ok_iff, Traced.outcome_ofExcept] at h
  obtain ⟨data, -, record, hrecord, pairs, hpairs, h⟩ := h
  cases h
  unfold Record.adoptName at ho
  split_ifs at ho
  · rw [Record.displayName_withDisplayName] at ho
    exact surrogate_mem_of_offeredName hpairs ho
  · have hname := Record.isScalar_displayName_of_ofOctets hrecord
    exact absurd ho (isScalar_iff_surrogate_not_mem.1 hname o)

namespace Record

variable {t : Text} {r : Record}

/-- A surrogate in the name that is read off a link stands in the link. -/
theorem surrogate_mem_of_ofLink (h : (Record.ofLink t).outcome = .ok r)
    (ho : .surrogate o ∈ r.displayName) : .surrogate o ∈ t := by
  have ht : t ≠ [] := by
    rintro rfl
    cases h
  rw [outcome_ofLink ht] at h
  cases hform : LinkForm.detect t with
  | none =>
      rw [hform] at h
      cases h
  | some form =>
      rw [hform] at h
      cases form with
      | internal =>
          obtain ⟨blob, -, hblob⟩ := InternalForm.decode_ok_iff.1 h
          obtain ⟨data, -, hrecord⟩ := InternalForm.decodeBlob_ok_iff.1 hblob
          have hname := isScalar_displayName_of_ofOctets hrecord
          exact absurd ho (isScalar_iff_surrogate_not_mem.1 hname o)
      | web =>
          obtain ⟨kind, blob, query, ⟨lead, -, -, rfl⟩, -, hblob⟩ := WebForm.decode_ok_iff.1 h
          have hquery := WebForm.surrogate_mem_of_decodeBlob hblob ho
          cases query with
          | none => cases hquery
          | some query => simp [behind, show CodePoint.surrogate o ∈ query from hquery]

theorem isScalar_displayName_of_ofLink (h : (Record.ofLink t).outcome = .ok r)
    (ht : t.isScalar = true) : r.displayName.isScalar = true :=
  isScalar_iff_surrogate_not_mem.2 fun o ho =>
    isScalar_iff_surrogate_not_mem.1 ht o (surrogate_mem_of_ofLink h ho)

end Record

end InviteLink
