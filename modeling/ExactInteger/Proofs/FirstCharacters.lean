import ExactInteger.Text.Lines

/-!
# First characters

Texts of different kinds are told apart by the character that they begin with.  A text
that is put together of pieces begins with a character only if one of its pieces does.
-/

namespace ExactInteger

namespace Text

variable {character : Char}

theorem head?_toList_append {start : String} (first : start.toList.head? = some character)
    (rest : String) : (start ++ rest).toList.head? = some character := by
  rw [String.toList_append, List.head?_append, first, Option.some_or]

/-- A text that does not begin with a character. -/
def BeginsOtherwise (character : Char) (text : String) : Prop :=
  text.toList.head? ≠ some character

instance (character : Char) (text : String) : Decidable (BeginsOtherwise character text) :=
  inferInstanceAs (Decidable (_ ≠ _))

theorem BeginsOtherwise.append {first second : String}
    (firstOther : BeginsOtherwise character first)
    (secondOther : BeginsOtherwise character second) :
    BeginsOtherwise character (first ++ second) := by
  rw [BeginsOtherwise, String.toList_append, List.head?_append, Ne, Option.or_eq_some_iff]
  rintro (isFirst | ⟨-, isSecond⟩)
  · exact firstOther isFirst
  · exact secondOther isSecond

theorem beginsOtherwise_join {pieces : List String}
    (others : ∀ piece ∈ pieces, BeginsOtherwise character piece) :
    BeginsOtherwise character (String.join pieces) := by
  induction pieces with
  | nil => simp [BeginsOtherwise]
  | cons piece pieces ih =>
      rw [List.forall_mem_cons] at others
      rw [String.join_cons]
      exact others.1.append (ih others.2)

theorem beginsOtherwise_unlines {lines : List String}
    (notLineFeed : BeginsOtherwise character "\n")
    (others : ∀ line ∈ lines, BeginsOtherwise character line) :
    BeginsOtherwise character (unlines lines) := by
  apply beginsOtherwise_join
  intro piece member
  obtain ⟨line, isLine, rfl⟩ := List.mem_map.mp member
  exact (others line isLine).append notLineFeed

end Text

end ExactInteger
