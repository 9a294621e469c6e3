import InviteLink.Proofs.Link.Parts
import InviteLink.Proofs.Query.Grammar

set_option autoImplicit false

/-! # The separators of a web link

A web link is cut at its number sign and its slashes, and none of these comes from the record. Its
keys show in the characters of base 58, its name in the letters, digits and six signs that an
escaped text is made of (`Query.isShown_of_mem_escape`). So each separator stands as often as it
does in the fixed parts (`WebForm.count_link`): nothing of the record gets in front of the number
sign, and the slashes tell whether there is a name. -/

namespace InviteLink

/-! ## Escaped names -/

namespace Query

/-- The characters that a name shows in: ASCII letters and digits, and six signs. -/
def isShown : CodePoint → Bool
  | .char c => c.isAlphanum || "_.-~+%".toList.contains c
  | .surrogate _ => false

theorem isShown_of_isEscapedChar {c : CodePoint} (hc : isEscapedChar c = true) :
    isShown c = true := by
  have hall : ∀ n < 128, isUnreserved (UInt8.ofNat n) = true →
      isShown (CodePoint.ofNat n) = true := by decide +kernel
  simp only [isEscapedChar, Bool.or_eq_true, Bool.and_eq_true, beq_iff_eq, decide_eq_true_eq] at hc
  rcases hc with (rfl | rfl) | ⟨hascii, hunreserved⟩
  · decide
  · decide
  · have hshown := hall c.toNat hascii hunreserved
    rwa [CodePoint.ofNat_toNat] at hshown

theorem isShown_of_mem_escape {c : CodePoint} {name : ScalarText} (hc : c ∈ escape name) :
    isShown c = true :=
  isShown_of_isEscapedChar (mem_escape hc)

theorem escapesAll_escape (name : ScalarText) : EscapesAll (escape name) := by
  have hescaped := wellEscaped_escape_append name []
  rw [List.append_nil] at hescaped
  rw [← wellEscaped_iff, hescaped]
  rfl

theorem count_escape {c : CodePoint} (hc : isShown c = false) (name : ScalarText) :
    (escape name).count c = 0 := by
  rw [List.count_eq_zero]
  intro hmem
  rw [isShown_of_mem_escape hmem] at hc
  exact absurd hc (by decide)

end Query

/-! ## Counting -/

namespace WebForm

theorem count_blobOf {c : CodePoint} (hc : c ∉ Codec.base58.alphabet) (r : Record) :
    (blobOf r).count c = 0 := by
  rw [List.count_eq_zero]
  intro hmem
  exact hc (Codec.base58.encode_subset _ c hmem)

theorem count_nameSegment {c : CodePoint} (hc : Query.isShown c = false) (name : ScalarText) :
    (nameSegment name).count c = if name = [] then 0 else "/name=".points.count c := by
  unfold nameSegment
  split_ifs
  · rfl
  · rw [List.count_append, Query.count_escape hc, Nat.add_zero]

/-- A character that shows neither keys nor names stands in the fixed parts of a link only. -/
theorem count_link {c : CodePoint} (hblob : c ∉ Codec.base58.alphabet)
    (hname : Query.isShown c = false) (r : Record) (name : ScalarText) :
    ("https://berty.tech/id#".points ++ (r.kind.tag.points
        ++ .char '/' :: (blobOf r ++ nameSegment name))).count c
      = "https://berty.tech/id#".points.count c
        + (r.kind.tag.points ++ [CodePoint.char '/']).count c
        + if name = [] then 0 else "/name=".points.count c := by
  rw [← List.singleton_append (x := CodePoint.char '/')]
  simp only [List.count_append, count_blobOf hblob, count_nameSegment hname]
  omega

/-- A segment that shows a name: its label and the name with every percent sign an escape, or
    nothing for the empty name. -/
def ShowsName (name : ScalarText) (segment : Text) : Prop :=
  if name = [] then segment = []
  else ∃ value, segment = "/name=".points ++ value ∧ (∀ c ∈ value, Query.isShown c = true)
    ∧ Query.EscapesAll value

theorem showsName_nameSegment (name : ScalarText) : ShowsName name (nameSegment name) := by
  unfold ShowsName nameSegment
  split_ifs
  · rfl
  · exact ⟨_, rfl, fun _ => Query.isShown_of_mem_escape, Query.escapesAll_escape name⟩

end WebForm

/-- Whatever keys and name a record has, its web link holds one number sign, at the end of the
    lead, and four slashes, or five if there is a name. Behind the number sign stand the tag of the
    kind, a slash, a blob that is not empty, and what shows the name. -/
theorem webLink_separators {r : Record} {name : ScalarText}
    (h : r.requireShareable.outcome = .ok ()) (hname : r.displayName = name.map .char) :
    ∃ link blob segment, r.toWebLink.outcome = .ok link
      ∧ link = "https://berty.tech/id#".points
        ++ (r.kind.tag.points ++ .char '/' :: (blob ++ segment))
      ∧ blob ≠ [] ∧ (∀ c ∈ blob, c ∈ Codec.base58.alphabet)
      ∧ WebForm.ShowsName name segment
      ∧ link.count (.char '#') = 1
      ∧ link.count (.char '/') = if r.displayName = [] then 4 else 5 := by
  have htag : (r.kind.tag.points ++ [CodePoint.char '/']).count (.char '#') = 0
      ∧ (r.kind.tag.points ++ [CodePoint.char '/']).count (.char '/') = 1 := by
    cases r.kind <;> decide
  refine ⟨_, WebForm.blobOf r, WebForm.nameSegment name,
    WebForm.toWebLink_eq (Record.requireShareable_ok_iff.1 h) hname, rfl, WebForm.blobOf_ne_nil r,
    Codec.base58.encode_subset _, WebForm.showsName_nameSegment _, ?_, ?_⟩
  · rw [WebForm.count_link (by decide) (by decide), htag.1]
    split_ifs <;> decide
  · rw [WebForm.count_link (by decide) (by decide), htag.2]
    simp only [hname, List.map_eq_nil_iff]
    split_ifs <;> decide

/-- A contact whose name holds separators and percent signs only. -/
theorem webLink_separators_contact :
    (Record.contact ⟨[0x23], [0x2F], "#/%2F//#".points⟩).requireShareable.outcome = .ok ()
      ∧ ∃ link, (Record.contact ⟨[0x23], [0x2F], "#/%2F//#".points⟩).toWebLink.outcome = .ok link
        ∧ link.count (.char '#') = 1 ∧ link.count (.char '/') = 5 := by
  have hshareable : (Record.contact ⟨[0x23], [0x2F],
      "#/%2F//#".points⟩).requireShareable.outcome = .ok () := rfl
  obtain ⟨link, -, -, hlink, -, -, -, -, hhash, hslash⟩ := webLink_separators hshareable rfl
  rw [if_neg (by decide)] at hslash
  exact ⟨hshareable, link, hlink, hhash, hslash⟩

end InviteLink
