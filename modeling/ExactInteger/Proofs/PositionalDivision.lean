import ExactInteger.Proofs.DivisionLaws
import ExactInteger.Proofs.LiteralGrammar

/-!
# Literals cut by division

A power of the radix cuts a literal in two.  The quotient is read from the digits
before the cut and the remainder from those after it, each with the sign of the
literal.  The digits after the cut stand for less than the power, and what they
stand for has the sign of the whole, so it is the remainder of a truncated division.
-/

namespace ExactInteger

namespace Literal

/-- A text of one or more digits of a radix. -/
structure IsDigits (radix : Nat) (text : String) : Prop where
  nonempty : text ≠ ""
  counted : ∀ character ∈ text.toList, ∃ value, Digit.Counts radix character value

variable {radix : Nat}

theorem isDigits_iff {text : String} :
    IsDigits radix text ↔
      text ≠ "" ∧ text.toList.all (Digit.belongsTo radix) = true := by
  simp only [List.all_eq_true, Digit.belongsTo_iff_counts]
  exact ⟨fun ⟨nonempty, counted⟩ => ⟨nonempty, counted⟩,
    fun ⟨nonempty, counted⟩ => ⟨nonempty, counted⟩⟩

instance (radix : Nat) (text : String) : Decidable (IsDigits radix text) :=
  decidable_of_iff' _ isDigits_iff

theorem IsDigits.append {head tail : String} (headDigits : IsDigits radix head)
    (tailDigits : IsDigits radix tail) : IsDigits radix (head ++ tail) where
  nonempty := by simp [headDigits.nonempty]
  counted := by
    rw [String.toList_append]
    exact List.forall_mem_append.mpr ⟨headDigits.counted, tailDigits.counted⟩

theorem exists_sign_of_mem {sign : String} (isSign : sign ∈ ["", "+", "-"]) :
    ∃ kind : Sign, sign.toList = kind.characters := by
  simp only [List.mem_cons, List.not_mem_nil, or_false] at isSign
  rcases isSign with rfl | rfl | rfl
  · exact ⟨.absent, by decide⟩
  · exact ⟨.plus, by decide⟩
  · exact ⟨.minus, by decide⟩

theorem Sign.natAbs_factor (sign : Sign) : sign.factor.natAbs = 1 := by
  cases sign <;> rfl

/-- A text of digits after a sign is read as the signed value of the digits. -/
theorem value_read_of_counted {sign digits : String} {kind : Sign} {values : List Nat}
    (isRadix : IsRadix radix) (isSign : sign.toList = kind.characters)
    (nonempty : digits ≠ "")
    (counted : List.Forall₂ (Digit.Counts radix) digits.toList values) :
    (read radix (sign ++ digits)).value =
      .ok (kind.factor * positional radix values) := by
  rw [value_read_eq_ok_iff, String.toList_append, isSign]
  exact ⟨isRadix, .intro kind (by simpa using nonempty) counted⟩

/-- Division by a power of the radix cuts a list of digits, whatever their sign. -/
theorem positional_append_divides {factor : Int} {first second : List Nat}
    (unit : factor.natAbs = 1) (below : ∀ value ∈ second, value < radix) :
    let whole := factor * positional radix (first ++ second)
    let power := (radix : Int) ^ second.length
    let high := factor * positional radix first
    let low := factor * positional radix second
    Primitive.Gives "quotient" [whole, power] high ∧
      Primitive.Gives "remainder" [whole, power] low ∧
      Primitive.Recomposes whole power high low := by
  intro whole power high low
  have cut := positional_append radix first second
  have small := positional_lt_pow_length below
  have nonzero : power ≠ 0 := by
    simp only [power, ← Nat.cast_pow]
    omega
  have isRemainder : Primitive.IsRemainder power whole low := by
    simp only [power, whole, low, ← Nat.cast_pow]
    exact Primitive.isRemainder_mul_of_lt unit small (by omega)
  have recomposed : high * power + low = whole := by
    simp only [whole, power, high, low, cut, Nat.cast_add, Nat.cast_mul, Nat.cast_pow]
    ring
  -- The quotient and the remainder are recognised by their laws, not computed.
  obtain ⟨givesQuotient, givesRemainder⟩ :=
    Primitive.gives_of_recomposed nonzero recomposed isRemainder
  exact ⟨givesQuotient, givesRemainder, Primitive.recomposes_iff.mpr recomposed⟩

/-- A literal whose digits are cut in two is divided by the power of the radix that
belongs to the second part.  The quotient is read from the sign and the first part,
the remainder from the sign and the second, and the two readings make up the literal
again. -/
theorem read_append_divides {sign head tail : String}
    (isRadix : 2 ≤ radix ∧ radix ≤ 36) (isSign : sign ∈ ["", "+", "-"])
    (headDigits : IsDigits radix head) (tailDigits : IsDigits radix tail) :
    ∃ whole high low : Int,
      (read radix (sign ++ (head ++ tail))).value = .ok whole ∧
      (read radix (sign ++ head)).value = .ok high ∧
      (read radix (sign ++ tail)).value = .ok low ∧
      Primitive.Gives "quotient" [whole, (radix : Int) ^ tail.length] high ∧
      Primitive.Gives "remainder" [whole, (radix : Int) ^ tail.length] low ∧
      Primitive.Recomposes whole ((radix : Int) ^ tail.length) high low := by
  obtain ⟨kind, isKind⟩ := exists_sign_of_mem isSign
  obtain ⟨headValues, headCounted⟩ := exists_forall₂_iff.mpr headDigits.counted
  obtain ⟨tailValues, tailCounted⟩ := exists_forall₂_iff.mpr tailDigits.counted
  have counted : List.Forall₂ (Digit.Counts radix) (head ++ tail).toList
      (headValues ++ tailValues) := by
    rw [String.toList_append]
    exact List.rel_append headCounted tailCounted
  have places : tail.length = tailValues.length := by
    rw [← tailCounted.length_eq, String.length_toList]
  rw [places]
  exact ⟨_, _, _,
    value_read_of_counted isRadix isKind (headDigits.append tailDigits).nonempty counted,
    value_read_of_counted isRadix isKind headDigits.nonempty headCounted,
    value_read_of_counted isRadix isKind tailDigits.nonempty tailCounted,
    positional_append_divides kind.natAbs_factor (below_of_counted tailCounted)⟩

/-- Two digits after the cut make a negative literal a dividend by 256. -/
theorem read_append_divides_hexadecimal :
    (read 16 "-fF0a").value = .ok (-65290) ∧
      (read 16 "-fF").value = .ok (-255) ∧ (read 16 "-0a").value = .ok (-10) ∧
      Primitive.Gives "quotient" [-65290, 256] (-255) ∧
      Primitive.Gives "remainder" [-65290, 256] (-10) := by
  have headDigits : IsDigits 16 "fF" := by decide
  have tailDigits : IsDigits 16 "0a" := by decide
  have readWhole : (read 16 "-fF0a").value = .ok (-65290) := by decide
  have readHigh : (read 16 "-fF").value = .ok (-255) := by decide
  have readLow : (read 16 "-0a").value = .ok (-10) := by decide
  obtain ⟨whole, high, low, isWhole, isHigh, isLow, givesQuotient, givesRemainder, -⟩ :=
    read_append_divides (by decide) (by decide : "-" ∈ ["", "+", "-"])
      headDigits tailDigits
  obtain rfl : whole = -65290 := Except.ok.inj (isWhole.symm.trans readWhole)
  obtain rfl : high = -255 := Except.ok.inj (isHigh.symm.trans readHigh)
  obtain rfl : low = -10 := Except.ok.inj (isLow.symm.trans readLow)
  exact ⟨readWhole, readHigh, readLow, givesQuotient, givesRemainder⟩

end Literal

end ExactInteger
