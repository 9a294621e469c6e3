import InviteLink.Proofs.Link.Accepted
import InviteLink.Proofs.Link.RoundTrip

set_option autoImplicit false

/-! # What the query text of a link adds

A web link is read by its blob first. The query text behind the blob offers a name and nothing
else, and the record of the blob adopts it if it has none of its own
(`WebForm.outcome_decode_query`). So whatever the query text says, the record under the name that
it ends up with is the record of the blob. Of several names that are offered the first counts, even
if it is empty: the pairs are first reduced to the first of each name, which loses no answer to what
a name stands for (`Query.lookup_firstOfEachName`) and leaves one pair of each name
(`Query.nodup_names_firstOfEachName`). As a written query text is read as its pairs, reading one
gives each name with its first value, whatever characters they are made of. -/

namespace InviteLink

/-! ## The first of several pairs -/

namespace Query

variable {α β : Type} [DecidableEq α] [BEq α] [LawfulBEq α]

theorem lookup_filter_ne {key other : α} (h : key ≠ other) (pairs : List (α × β)) :
    (pairs.filter (·.1 ≠ other)).lookup key = pairs.lookup key := by
  induction pairs with
  | nil => rfl
  | cons p rest ih =>
      obtain ⟨name, value⟩ := p
      by_cases hname : name = other
      · have hkey : (key == name) = false := by simpa [hname] using h
        rw [List.filter_cons_of_neg (by simpa using hname), ih, List.lookup_cons, hkey]
      · rw [List.filter_cons_of_pos (by simpa using hname), List.lookup_cons, List.lookup_cons, ih]

/-- Leaving out the later pairs of a name does not change what any name stands for. -/
theorem lookup_firstOfEachName (key : α) (pairs : List (α × β)) :
    (firstOfEachName pairs).lookup key = pairs.lookup key := by
  induction pairs with
  | nil => rfl
  | cons p rest ih =>
      obtain ⟨name, value⟩ := p
      rw [firstOfEachName, List.lookup_cons, List.lookup_cons]
      by_cases hkey : key = name
      · simp [hkey]
      · rw [lookup_filter_ne hkey, ih]

omit [BEq α] [LawfulBEq α] in
/-- The pairs that are left are those before which no pair of their name stands. -/
theorem mem_firstOfEachName_iff {p : α × β} {pairs : List (α × β)} :
    p ∈ firstOfEachName pairs
      ↔ ∃ before after, pairs = before ++ p :: after ∧ ∀ q ∈ before, q.1 ≠ p.1 := by
  induction pairs with
  | nil => simp [firstOfEachName]
  | cons first rest ih =>
      rw [firstOfEachName, List.mem_cons, List.mem_filter, ih]
      constructor
      · rintro (rfl | ⟨⟨before, after, rfl, hbefore⟩, hfirst⟩)
        · exact ⟨[], rest, rfl, by simp⟩
        · have hother := of_decide_eq_true hfirst
          exact ⟨first :: before, after, rfl, List.forall_mem_cons.2 ⟨hother.symm, hbefore⟩⟩
      · rintro ⟨before, after, hpairs, hbefore⟩
        cases before with
        | nil => exact Or.inl (List.cons.inj hpairs).1.symm
        | cons q before =>
            obtain ⟨rfl, rfl⟩ := List.cons.inj hpairs
            obtain ⟨hfirst, hbefore⟩ := List.forall_mem_cons.1 hbefore
            exact Or.inr ⟨⟨before, after, rfl, hbefore⟩, decide_eq_true hfirst.symm⟩

omit [BEq α] [LawfulBEq α] in
/-- Of each name one pair is left. -/
theorem nodup_names_firstOfEachName (pairs : List (α × β)) :
    ((firstOfEachName pairs).map Prod.fst).Nodup := by
  induction pairs with
  | nil => exact List.nodup_nil
  | cons p rest ih =>
      rw [firstOfEachName, List.map_cons, List.nodup_cons]
      constructor
      · intro hmem
        obtain ⟨q, hq, hname⟩ := List.mem_map.1 hmem
        exact of_decide_eq_true (List.mem_filter.1 hq).2 hname
      · exact ih.sublist (List.filter_sublist.map Prod.fst)

omit [DecidableEq α] in
theorem lookup_eq_none_of_ne {key : α} {pairs : List (α × β)} (h : ∀ p ∈ pairs, p.1 ≠ key) :
    pairs.lookup key = none := by
  rw [List.lookup_eq_none_iff]
  intro p hp
  simpa using (h p hp).symm

/-- As texts, pairs of characters have the same names first. -/
theorem firstOfEachName_map_asTexts (pairs : List (ScalarText × ScalarText)) :
    firstOfEachName (pairs.map asTexts) = (firstOfEachName pairs).map asTexts := by
  induction pairs with
  | nil => rfl
  | cons p rest ih =>
      rw [List.map_cons, firstOfEachName, firstOfEachName, List.map_cons, ih, List.filter_map]
      have hname : ∀ q : ScalarText × ScalarText, (asTexts q).1 = (asTexts p).1 ↔ q.1 = p.1 :=
        fun q => map_char_injective.eq_iff
      congr 3
      funext q
      simp [hname]

end Query

/-! ## Adopting a name -/

namespace Record

@[simp] theorem displayName_withDisplayName (name : Text) (r : Record) :
    (r.withDisplayName name).displayName = name := by
  cases r <;> rfl

@[simp] theorem withDisplayName_displayName (r : Record) :
    r.withDisplayName r.displayName = r := by
  cases r <;> rfl

theorem adoptName_of_named {r : Record} (h : r.displayName ≠ []) (name : Text) :
    r.adoptName name = r := if_neg h

theorem adoptName_of_nameless {r : Record} (h : r.displayName = []) (name : Text) :
    r.adoptName name = r.withDisplayName name := if_pos h

@[simp] theorem adoptName_nil (r : Record) : r.adoptName [] = r := by
  by_cases h : r.displayName = []
  · rw [adoptName_of_nameless h, ← h, withDisplayName_displayName]
  · exact adoptName_of_named h []

/-- Adopting a name changes nothing but the name. -/
theorem withDisplayName_adoptName (name : Text) (r : Record) :
    r.withDisplayName (r.adoptName name).displayName = r.adoptName name := by
  by_cases h : r.displayName = []
  · rw [adoptName_of_nameless h, displayName_withDisplayName]
  · rw [adoptName_of_named h, withDisplayName_displayName]

end Record

/-! ## Links with a query text -/

namespace WebForm

/-- The name that the pairs of a query text offer; they offer the empty name if they have none. -/
def offeredName (pairs : List (Text × Text)) : Text := (pairs.lookup nameKey).getD []

theorem offeredName_firstOfEachName (pairs : List (Text × Text)) :
    offeredName (Query.firstOfEachName pairs) = offeredName pairs := by
  rw [offeredName, Query.lookup_firstOfEachName, offeredName]

theorem offeredName_of_first {before after : List (Text × Text)} {value : Text}
    (h : ∀ p ∈ before, p.1 ≠ nameKey) :
    offeredName (before ++ (nameKey, value) :: after) = value := by
  rw [offeredName, List.lookup_append, Query.lookup_eq_none_of_ne h, Option.none_or,
    List.lookup_cons_self, Option.getD_some]

theorem offeredName_of_none {pairs : List (Text × Text)} (h : ∀ p ∈ pairs, p.1 ≠ nameKey) :
    offeredName pairs = [] := by
  rw [offeredName, Query.lookup_eq_none_of_ne h, Option.getD_none]

theorem ne_nameKey_of_ne {pairs : List (ScalarText × ScalarText)}
    (h : ∀ p ∈ pairs, p.1 ≠ "name".toList) : ∀ p ∈ pairs.map Query.asTexts, p.1 ≠ nameKey := by
  rintro _ hmem hname
  obtain ⟨p, hp, rfl⟩ := List.mem_map.1 hmem
  exact h p hp (map_char_injective hname)

/-- A blob that is read as a record is read with a query text as the same record, which adopts the
    name that the query text offers; it is refused just when the query text is. -/
theorem outcome_decodeBlob_query {kind : Kind} {blob : Text} {d : Record}
    (h : (decodeBlob kind blob []).outcome = .ok d) (query : Text) :
    (decodeBlob kind blob query).outcome
      = (readMetadata query).map fun pairs => d.adoptName (offeredName pairs) := by
  rw [decodeBlob] at h ⊢
  simp only [Traced.outcome_bind, bind_eq_ok_iff, Traced.outcome_ofExcept,
    Traced.outcome_pure] at h ⊢
  obtain ⟨data, hdata, record, hrecord, pairs, hpairs, hd⟩ := h
  -- no query text offers the empty name, which changes no record
  obtain rfl : [] = pairs := Except.ok.inj hpairs
  obtain rfl : record = d := by simpa using hd
  rw [hdata]
  show (Record.ofOctets (some (kind.number : Int)) data).outcome.bind _ = _
  rw [hrecord]
  cases readMetadata query <;> rfl

theorem IsLink.with_query {u : Text} {kind : Kind} {blob : Text} (h : IsLink u kind blob none)
    (query : Text) : IsLink (u ++ .char '/' :: query) kind blob (some query) := by
  obtain ⟨lead, hlead, hblob, rfl⟩ := h
  exact ⟨lead, hlead, hblob, by simp [behind]⟩

/-- A link that ends behind its blob and is read as a record is read with a query text as the same
    record, which adopts the name that the query text offers. -/
theorem outcome_decode_query {u : Text} {kind : Kind} {blob : Text} {d : Record}
    (hlink : IsLink u kind blob none) (hd : (decode u).outcome = .ok d) (query : Text) :
    (decode (u ++ .char '/' :: query)).outcome
      = (readMetadata query).map fun pairs => d.adoptName (offeredName pairs) := by
  rw [decode_of_isLink hlink, Option.getD_none] at hd
  have hblob : blob ≠ [] := by
    intro hempty
    rw [if_pos hempty] at hd
    cases hd
  rw [if_neg hblob] at hd
  rw [decode_of_isLink (hlink.with_query query), if_neg hblob, Option.getD_some,
    outcome_decodeBlob_query hd]

end WebForm

/-- Whatever stands behind the blob of a link, and is read, changes nothing but the name, and that
    only if the blob has none. Pairs that are written as a query text are always read, and offer
    the name of the first pair of that key, or none. -/
theorem query_offers_name {u blob : Text} {kind : Kind} {d : Record}
    (hlink : WebForm.IsLink u kind blob none) (hd : (WebForm.decode u).outcome = .ok d) :
    (∀ q e, (WebForm.decode (u ++ .char '/' :: q)).outcome = .ok e →
        e = d.withDisplayName e.displayName
          ∧ (d.displayName ≠ [] → e.displayName = d.displayName))
      ∧ ∀ pairs, ∃ e, (WebForm.decode (u ++ .char '/' :: Query.encode pairs)).outcome = .ok e
        ∧ (d.displayName = [] →
          (∀ before value after, pairs = before ++ ("name".toList, value) :: after →
            (∀ p ∈ before, p.1 ≠ "name".toList) → e.displayName = value.map .char)
          ∧ ((∀ p ∈ pairs, p.1 ≠ "name".toList) → e.displayName = [])) := by
  have hquery := WebForm.outcome_decode_query hlink hd
  refine ⟨?_, ?_⟩
  · intro q e he
    rw [hquery, map_eq_ok_iff] at he
    obtain ⟨pairs, -, rfl⟩ := he
    refine ⟨(Record.withDisplayName_adoptName _ d).symm, ?_⟩
    intro hnamed
    rw [Record.adoptName_of_named hnamed]
  · intro pairs
    refine ⟨d.adoptName (WebForm.offeredName (pairs.map Query.asTexts)), ?_, ?_⟩
    · rw [hquery, WebForm.readMetadata_encode, Except.map, WebForm.offeredName_firstOfEachName]
    · intro hnameless
      rw [Record.adoptName_of_nameless hnameless, Record.displayName_withDisplayName]
      refine ⟨?_, fun hpairs => WebForm.offeredName_of_none (WebForm.ne_nameKey_of_ne hpairs)⟩
      rintro before value after rfl hbefore
      rw [List.map_append]
      exact WebForm.offeredName_of_first (WebForm.ne_nameKey_of_ne hbefore)

theorem query_offers_name_contact :
    WebForm.IsLink "https://berty.tech/id#contact/LkA9z2ePX8xPT5Kx".points .contact
        "LkA9z2ePX8xPT5Kx".points none
      ∧ (WebForm.decode "https://berty.tech/id#contact/LkA9z2ePX8xPT5Kx".points).outcome
        = .ok (.contact ⟨[112, 107], [115, 101, 101, 100], []⟩)
      ∧ ∃ e, (WebForm.decode ("https://berty.tech/id#contact/LkA9z2ePX8xPT5Kx".points ++ .char '/'
            :: Query.encode [("name".toList, []), ("name".toList, "x".toList)])).outcome
          = .ok e ∧ e.displayName = [] := by
  have hlink : WebForm.IsLink "https://berty.tech/id#contact/LkA9z2ePX8xPT5Kx".points .contact
      "LkA9z2ePX8xPT5Kx".points none :=
    ⟨"https://berty.tech/id#".points, .refl _, by decide, by decide⟩
  have hd : (WebForm.decode "https://berty.tech/id#contact/LkA9z2ePX8xPT5Kx".points).outcome
      = .ok (.contact ⟨[112, 107], [115, 101, 101, 100], []⟩) := by
    rw [WebForm.decode_of_isLink hlink]
    decide +kernel
  obtain ⟨e, he, hname⟩ := (query_offers_name hlink hd).2
    [("name".toList, []), ("name".toList, "x".toList)]
  exact ⟨hlink, hd, e, he, (hname rfl).1 [] [] _ rfl (by simp)⟩

/-! ## Pairs that are written -/

/-- Pairs that are written as a query text, whatever they hold, are read out of its segments as the
    map from each of their names to the first value that it has among them: there is one pair of
    each name, those are the pairs before which no other of their name stands, and every name is
    found with the value that is found first in the pairs, or not at all. -/
theorem written_pairs_read (pairs : List (ScalarText × ScalarText)) :
    ∃ human : List (ScalarText × ScalarText),
      WebForm.readMetadata
          ([CodePoint.char '/'].intercalate ((Query.encode pairs).splitOn (.char '/')))
        = .ok (human.map Query.asTexts)
      ∧ (human.map Prod.fst).Nodup
      ∧ (∀ name value, (name, value) ∈ human ↔ ∃ before after,
          pairs = before ++ (name, value) :: after ∧ ∀ p ∈ before, p.1 ≠ name)
      ∧ ∀ name, human.lookup name = pairs.lookup name := by
  refine ⟨Query.firstOfEachName pairs, ?_, Query.nodup_names_firstOfEachName pairs, ?_, ?_⟩
  · rw [List.intercalate_splitOn, WebForm.readMetadata_encode, Query.firstOfEachName_map_asTexts]
  · intro name value
    exact Query.mem_firstOfEachName_iff
  · intro name
    exact Query.lookup_firstOfEachName name pairs

end InviteLink
