import InviteLink.Proofs.Log.Traced
import InviteLink.Proofs.Text.Quoted

set_option autoImplicit false

/-! # What the words of a refusal tell

Part of the words of a refusal stands fixed for its cause (`Refusal.opening`). The causes of which
there is a notice open like no other, but for an unknown tag: it opens like an unknown number of
a kind, which is told from it by having no quotes. So the words of a refusal tell what its notice
says (`Refusal.notice_lines_of_message_eq`). -/

namespace InviteLink

/-! ## Quotes -/

theorem quoteMark_mem_quoted (t : Text) : quoteMark t ∈ (quoted t).toList := by
  rw [quoted, String.toList_ofList]
  exact List.mem_append_left _ List.mem_cons_self

/-- There are no quotes in the numeral of an integer. -/
theorem quote_not_mem_numeral {mark : Char} (h : IsQuoteMark mark) (n : Int) :
    mark ∉ (toString n).toList := by
  have hdigits : ∀ k : Nat, mark ∉ k.repr.toList := by
    intro k hmem
    rw [Nat.toList_repr] at hmem
    have hdigit := Nat.isDigit_of_mem_toDigits (by decide) (by decide) hmem
    rcases h with rfl | rfl <;> exact absurd hdigit (by decide)
  cases n with
  | ofNat k => exact hdigits k
  | negSucc k =>
      show mark ∉ ("-" ++ k.succ.repr).toList
      rw [String.toList_append, List.mem_append, not_or]
      refine ⟨?_, hdigits _⟩
      rcases h with rfl | rfl <;> decide

theorem quoted_ne_numeral (t : Text) (n : Int) : quoted t ≠ toString n := by
  intro h
  have hmem := quoteMark_mem_quoted t
  rw [h] at hmem
  exact quote_not_mem_numeral (isQuoteMark_quoteMark t) n hmem

theorem GroupType.label_injective : Function.Injective GroupType.label := by
  rintro (_ | _ | _ | _) (_ | _ | _ | _) h
  all_goals first | rfl | exact absurd h (by decide)

namespace Refusal

/-! ## Openings -/

/-- The words that refusals open with, whatever they say next; all of them if they say no more. The
    four of the causes of which there is a notice come first. -/
def openings : List String := [
  "can't share a ", "unsupported link type: ", "unknown link kind ", "malformed link blob: ",
  "link is empty", "link kind is missing", "contact link is missing the account public key",
  "contact link is missing the public rendezvous seed", "group link is missing the group",
  "unsupported link kind ", "cannot serialize link kind ", "unsupported link format",
  "not an internal link", "not a web link", "URI should have at least 2 parts",
  "web link has an empty fragment", "web link has an empty blob", "invalid character ",
  "unknown group type ", "malformed link metadata: invalid URL escape",
  "malformed link metadata: "]

/-- Where the opening of a refusal stands among them. -/
def openingIndex : Refusal → Nat
  | .unshareable _ => 0
  | .unsupportedFraming _ => 1
  | .unknownTag _ | .unknownKind _ => 2
  | .malformedBlob _ => 3
  | .noLink => 4
  | .noKind => 5
  | .noAccountKey => 6
  | .noSeed => 7
  | .noDescriptor => 8
  | .unsupportedKind _ => 9
  | .unwritableKind _ => 10
  | .unknownFormat => 11
  | .notInternal => 12
  | .notWeb => 13
  | .tooFewParts => 14
  | .emptyFragment => 15
  | .emptyBlob => 16
  | .foreignCharacter _ => 17
  | .unknownGroupType _ => 18
  | .badEscape => 19
  | .malformedMetadata _ => 20

/-- The words that a refusal opens with. -/
def opening (e : Refusal) : String := openings.getD e.openingIndex ""

theorem exists_message_eq (e : Refusal) : ∃ more, e.message = e.opening ++ more := by
  cases e
  case unshareable t => exact ⟨t.label ++ " group type", String.append_assoc⟩
  case foreignCharacter f =>
    refine ⟨quoted [f.character] ++ (" at position " ++ (toString f.position
      ++ (" for base" ++ toString f.base))), ?_⟩
    simp only [← String.append_assoc]
    rfl
  case unsupportedKind | unwritableKind | unsupportedFraming | unknownTag | malformedBlob
      | unknownKind | unknownGroupType | malformedMetadata => exact ⟨_, rfl⟩
  all_goals exact ⟨"", (String.append_empty).symm⟩

theorem opening_prefix (e : Refusal) : e.opening.toList <+: e.message.toList := by
  obtain ⟨more, h⟩ := e.exists_message_eq
  rw [h, String.toList_append]
  exact List.prefix_append _ _

theorem openingIndex_lt (e : Refusal) : e.openingIndex < openings.length := by
  cases e
  all_goals simp [openingIndex, openings]

variable {e : Refusal}

/-- Refusals in the same words open alike, if there is a notice of one of them: its opening goes on
    from no other, and no other goes on from it. -/
theorem openingIndex_eq {e' : Refusal} (h : e.message = e'.message)
    (hnoticed : e'.openingIndex < 4) : e.openingIndex = e'.openingIndex := by
  have hall : ∀ i < openings.length, ∀ j < 4,
      (openings.getD i "").toList <+: (openings.getD j "").toList
        ∨ (openings.getD j "").toList <+: (openings.getD i "").toList → i = j := by decide +kernel
  refine hall _ e.openingIndex_lt _ hnoticed ?_
  exact List.prefix_or_prefix_of_prefix e.opening_prefix (h ▸ e'.opening_prefix)

/-! ## Notices -/

theorem eq_unshareable_of_message {t : GroupType} (h : e.message = (unshareable t).message) :
    e = .unshareable t := by
  have hopening := openingIndex_eq h (show 0 < 4 by decide)
  cases e
  case unshareable t' =>
    rw [GroupType.label_injective ((String.append_right_inj _).1 ((String.append_left_inj _).1 h))]
  all_goals cases hopening

theorem eq_unsupportedFraming_of_message {tag : Text}
    (h : e.message = (unsupportedFraming tag).message) : e = .unsupportedFraming tag := by
  have hopening := openingIndex_eq h (show 1 < 4 by decide)
  cases e
  case unsupportedFraming tag' =>
    rw [quoted_injective ((String.append_right_inj _).1 h)]
  all_goals cases hopening

theorem eq_unknownTag_of_message {tag : Text} (h : e.message = (unknownTag tag).message) :
    e = .unknownTag tag := by
  have hopening := openingIndex_eq h (show 2 < 4 by decide)
  cases e
  case unknownTag tag' =>
    rw [quoted_injective ((String.append_right_inj _).1 h)]
  case unknownKind n =>
    exact absurd ((String.append_right_inj _).1 h).symm (quoted_ne_numeral tag n)
  all_goals cases hopening

theorem eq_malformedBlob_of_message {f : Wire.Fault} (h : e.message = (malformedBlob f).message) :
    ∃ f', e = .malformedBlob f' ∧ f'.message = f.message := by
  have hopening := openingIndex_eq h (show 3 < 4 by decide)
  cases e
  case malformedBlob f' => exact ⟨f', rfl, (String.append_right_inj _).1 h⟩
  all_goals cases hopening

/-- The lines of a notice depend on the words of the refusal alone. -/
theorem notice_lines_of_message_eq {e' : Refusal} {size : Nat} (h : e.message = e'.message) :
    (e.notice size).map Event.line = (e'.notice size).map Event.line := by
  have hnoticed : ∀ {e e' : Refusal}, e.message = e'.message → e'.notice size ≠ [] →
      (e.notice size).map Event.line = (e'.notice size).map Event.line := by
    intro e e' h hnotice
    cases e'
    case unshareable t => rw [eq_unshareable_of_message h]
    case unsupportedFraming tag => rw [eq_unsupportedFraming_of_message h]
    case unknownTag tag => rw [eq_unknownTag_of_message h]
    case malformedBlob f =>
      obtain ⟨f', rfl, hf⟩ := eq_malformedBlob_of_message h
      have hmessage : (Event.blobRejected size f').message = (Event.blobRejected size f).message :=
        congrArg ("Rejected link blob of " ++ toString size ++ " bytes: " ++ ·) hf
      show [(_, _, (Event.blobRejected size f').message)] = _
      rw [hmessage]
      rfl
    all_goals exact absurd rfl hnotice
  by_cases hnotice : e'.notice size = []
  · by_cases hnotice' : e.notice size = []
    · rw [hnotice, hnotice']
    · exact (hnoticed h.symm hnotice').symm
  · exact hnoticed h hnotice

end Refusal

end InviteLink
