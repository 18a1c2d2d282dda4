import ExactInteger.CommandLine
import ExactInteger.Proofs.DecimalNumeral

/-!
# Messages about arguments

Every error about the arguments of a run is worded differently, also from others of its
kind, so the message says which error it was.
-/

namespace ExactInteger

theorem Decimal.ofNat_inj {first second : Nat} :
    ofNat first = ofNat second ↔ first = second := by
  have asIntegers : digits first = digits second ↔ (first : Int) = second := by
    simpa [characters_of_nonneg] using @characters_inj first second
  rw [ofNat, ofNat, String.ofList_inj, asIntegers, Int.natCast_inj]

theorem Word32.Error.message_injective : Function.Injective Word32.Error.message := by
  intro first second same
  cases first <;> cases second <;> first | rfl | exact absurd same (by decide)

namespace CommandLine

/-- What an error about arguments is about. -/
inductive UsageError.Kind where
  | unexpected
  | repeated
  | radixText
  | radixRange

def UsageError.kind : UsageError → Kind
  | .unexpected _ => .unexpected
  | .repeated _ => .repeated
  | .radixText _ => .radixText
  | .radixRange _ => .radixRange

/-- What the messages of a kind begin with. -/
def UsageError.Kind.heading : Kind → String
  | .unexpected => "error: Found argument '"
  | .repeated => "error: The argument '"
  | .radixText => "invalid radix: "
  | .radixRange => "invalid radix "

theorem UsageError.exists_message (error : UsageError) :
    ∃ rest, error.message = error.kind.heading ++ rest := by
  cases error with
  | unexpected argument => exact ⟨_, String.append_assoc ..⟩
  | repeated option => exact ⟨_, String.append_assoc ..⟩
  | radixText error => exact ⟨_, rfl⟩
  | radixRange radix => exact ⟨_, String.append_assoc ..⟩

/-- Fourteen characters are enough to tell the kinds apart. -/
theorem UsageError.Kind.eq_of_take_heading_eq {first second : Kind}
    (same : first.heading.toList.take 14 = second.heading.toList.take 14) :
    first = second := by
  cases first <;> cases second <;> first | rfl | exact absurd same (by decide)

theorem UsageError.take_message (error : UsageError) :
    error.message.toList.take 14 = error.kind.heading.toList.take 14 := by
  obtain ⟨rest, messageEq⟩ := error.exists_message
  have long : 14 ≤ error.kind.heading.toList.length := by cases error.kind <;> decide
  rw [messageEq, String.toList_append, List.take_append_of_le_length long]

theorem UsageError.kind_eq_of_message_eq {first second : UsageError}
    (same : first.message = second.message) : first.kind = second.kind := by
  apply Kind.eq_of_take_heading_eq
  rw [← take_message, ← take_message, same]

theorem OnceOption.text_injective : Function.Injective OnceOption.text := by
  intro first second same
  rcases first with _ | first <;> rcases second with _ | second
  · rfl
  · cases second <;> exact absurd same (by decide)
  · cases first <;> exact absurd same (by decide)
  · cases first <;> cases second <;> first | rfl | exact absurd same (by decide)

private theorem eq_of_enclosed_eq {before after first second : String}
    (same : before ++ first ++ after = before ++ second ++ after) : first = second := by
  simpa using same

theorem UsageError.message_injective : Function.Injective UsageError.message := by
  intro first second same
  have sameKind := kind_eq_of_message_eq same
  cases first with
  | unexpected argument =>
      cases second with
      | unexpected other => rw [eq_of_enclosed_eq same]
      | repeated _ | radixText _ | radixRange _ => nomatch sameKind
  | repeated option =>
      cases second with
      | repeated other => rw [OnceOption.text_injective (eq_of_enclosed_eq same)]
      | unexpected _ | radixText _ | radixRange _ => nomatch sameKind
  | radixText error =>
      cases second with
      | radixText other =>
          rw [Word32.Error.message_injective ((String.append_right_inj _).mp same)]
      | unexpected _ | repeated _ | radixRange _ => nomatch sameKind
  | radixRange radix =>
      cases second with
      | radixRange other => rw [Decimal.ofNat_inj.mp (eq_of_enclosed_eq same)]
      | unexpected _ | repeated _ | radixText _ => nomatch sameKind

/-- Arguments are refused with a message. -/
def Refused (arguments : List String) (message : String) : Prop :=
  ∃ error, parse arguments = .error error ∧ error.message = message

theorem refused_message_iff {arguments : List String} {error : UsageError} :
    Refused arguments error.message ↔ parse arguments = .error error := by
  constructor
  · rintro ⟨other, refused, sameMessage⟩
    rw [refused, UsageError.message_injective sameMessage]
  · intro refused
    exact ⟨error, refused, rfl⟩

end CommandLine

end ExactInteger
