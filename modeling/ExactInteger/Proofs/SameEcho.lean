import ExactInteger.Proofs.DecimalNumeral
import ExactInteger.Proofs.LineTokens

/-!
# Lines with the same echo

A token is echoed as the decimal text of the number that it denotes, or as a refusal
that quotes it.  A decimal text tells which number it is, a refusal tells which token
it quotes, whatever characters stand in that, and no decimal text is a refusal.  So the
echo of a line tells its tokens apart from all others, except from literals of the same
numbers.
-/

namespace ExactInteger

/-! ## Decimal texts and refusals -/

namespace Decimal

theorem ofInt_inj {first second : Int} : ofInt first = ofInt second ↔ first = second :=
  String.ofList_inj.trans characters_inj

/-- The letters of a refusal occur in no decimal text. -/
theorem ofInt_ne_refusal (number : Int) (token : String) :
    ofInt number ≠ "error: malformed integer literal: `" ++ token ++ "`" := by
  intro same
  have member : 'e' ∈ (ofInt number).toList := by
    rw [same, String.toList_append, String.toList_append]
    exact List.mem_append_left _ (List.mem_append_left _ (by decide))
  rw [toList_ofInt] at member
  exact absurd ((isCanonical_characters number).eq_minus_or_isDigit member) (by decide)

end Decimal

/-- The line that is printed for a token that is no literal. -/
theorem outcomeText_malformedLiteral (token : String) :
    outcomeText (.error (.malformedLiteral token)) =
      "error: malformed integer literal: `" ++ token ++ "`" := by
  have notice : "error: " ++ "malformed integer literal: `" =
      "error: malformed integer literal: `" := by
    decide
  calc
    outcomeText (.error (.malformedLiteral token))
    _ = "error: " ++ ("malformed integer literal: `" ++ token ++ "`") := rfl
    _ = "error: " ++ "malformed integer literal: `" ++ token ++ "`" := by
      rw [String.append_assoc, String.append_assoc, String.append_assoc]
    _ = "error: malformed integer literal: `" ++ token ++ "`" := by rw [notice]

variable {radix : Nat}

/-- The line that is printed for a literal. -/
theorem outcomeText_read_of_denotes (isRadix : Literal.IsRadix radix) {token : List Char}
    {number : Int} (denotes : Literal.Denotes radix token number) :
    outcomeText (Literal.read radix (String.ofList token)).value = Decimal.ofInt number := by
  have valued : (Literal.read radix (String.ofList token)).value = .ok number :=
    Literal.value_read_eq_ok_iff.mpr ⟨isRadix, by simpa using denotes⟩
  rw [valued, outcomeText, pretty_int]

theorem outcomeText_read_of_malformed (isRadix : Literal.IsRadix radix) {token : List Char}
    (malformed : ∀ number, ¬ Literal.Denotes radix token number) :
    outcomeText (Literal.read radix (String.ofList token)).value =
      "error: malformed integer literal: `" ++ String.ofList token ++ "`" := by
  have refused : (Literal.read radix (String.ofList token)).value =
      .error (.malformedLiteral (String.ofList token)) :=
    Literal.value_read_eq_error_iff.mpr (Or.inr ⟨isRadix, by simpa using malformed, rfl⟩)
  rw [refused, outcomeText_malformedLiteral]

/-! ## Tokens with the same line -/

namespace Literal

/-- Two tokens come to the same: they are literals of one number, or one and the same
token that is no literal. -/
inductive SameReading (radix : Nat) : List Char → List Char → Prop
  | literals {first second : List Char} {number : Int}
      (firstDenotes : Denotes radix first number)
      (secondDenotes : Denotes radix second number) : SameReading radix first second
  | malformed {token : List Char} (noLiteral : ∀ number, ¬ Denotes radix token number) :
      SameReading radix token token

end Literal

theorem outcomeText_read_inj (isRadix : Literal.IsRadix radix) {first second : List Char} :
    outcomeText (Literal.read radix (String.ofList first)).value =
        outcomeText (Literal.read radix (String.ofList second)).value ↔
      Literal.SameReading radix first second := by
  constructor
  · intro same
    by_cases firstLiteral : ∃ number, Literal.Denotes radix first number
    · obtain ⟨number, firstDenotes⟩ := firstLiteral
      rw [outcomeText_read_of_denotes isRadix firstDenotes] at same
      by_cases secondLiteral : ∃ number, Literal.Denotes radix second number
      · obtain ⟨other, secondDenotes⟩ := secondLiteral
        rw [outcomeText_read_of_denotes isRadix secondDenotes, Decimal.ofInt_inj] at same
        exact .literals firstDenotes (same ▸ secondDenotes)
      · rw [outcomeText_read_of_malformed isRadix (not_exists.mp secondLiteral)] at same
        exact absurd same (Decimal.ofInt_ne_refusal number _)
    · rw [outcomeText_read_of_malformed isRadix (not_exists.mp firstLiteral)] at same
      by_cases secondLiteral : ∃ number, Literal.Denotes radix second number
      · obtain ⟨other, secondDenotes⟩ := secondLiteral
        rw [outcomeText_read_of_denotes isRadix secondDenotes] at same
        exact absurd same.symm (Decimal.ofInt_ne_refusal other _)
      · rw [outcomeText_read_of_malformed isRadix (not_exists.mp secondLiteral),
          String.append_left_inj, String.append_right_inj, String.ofList_inj] at same
        exact same ▸ .malformed (not_exists.mp firstLiteral)
  · intro sameReading
    cases sameReading with
    | literals firstDenotes secondDenotes =>
        rw [outcomeText_read_of_denotes isRadix firstDenotes,
          outcomeText_read_of_denotes isRadix secondDenotes]
    | malformed => rfl

/-- Two lines have the same echo exactly if they have equally many tokens, and each of
these is a literal of the same number as the other at its place, or is no literal and
the same as the other. -/
theorem echo_eq_echo_iff (isRadix : 2 ≤ radix ∧ radix ≤ 36) (first second : List Char) :
    (echo radix first).value = (echo radix second).value ↔
      List.Forall₂ (Literal.SameReading radix) (Text.tokens first) (Text.tokens second) := by
  rw [value_echo, value_echo, ← List.forall₂_eq_eq_eq, List.forall₂_map_left_iff,
    List.forall₂_map_right_iff]
  simp only [outcomeText_read_inj isRadix]

/-- White space, zeros and the case of digits make no difference, and a refused token is
told by its quotation although a backquote stands in it. -/
theorem echo_eq_echo_iff_backquoted :
    (echo 16 "+0fF\tx`y".toList).value = (echo 16 "FF x`y ".toList).value ∧
      List.Forall₂ (Literal.SameReading 16) ["+0fF".toList, "x`y".toList]
        ["FF".toList, "x`y".toList] := by
  have firstTokens : Text.tokens "+0fF\tx`y".toList = ["+0fF".toList, "x`y".toList] := by
    decide
  have secondTokens : Text.tokens "FF x`y ".toList = ["FF".toList, "x`y".toList] := by
    decide
  have same : (echo 16 "+0fF\tx`y".toList).value = (echo 16 "FF x`y ".toList).value := by
    decide
  refine ⟨same, ?_⟩
  rw [← firstTokens, ← secondTokens]
  exact (echo_eq_echo_iff (by decide) _ _).mp same

end ExactInteger
