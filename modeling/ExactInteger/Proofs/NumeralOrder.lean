import ExactInteger.Order
import ExactInteger.Proofs.DecimalNumeral
import ExactInteger.Proofs.PrimitiveValues

/-!
# The order of numbers in their decimal texts

Canonical decimal texts are compared without reading them: first by their signs, then
by the number of digits, and then digit by digit from the left, both in reverse if the
signs are negative.  The last digits decide only if all digits before them agree, as
they do in a comparison of numbers.  So texts compare in the same way as the integers
that they are read as, and these compare as their difference tells.
-/

namespace ExactInteger

namespace Decimal

/-! ## Comparing texts -/

/-- The digits of natural numbers are compared by how many they are, then from the
left. -/
def numeralOrder (first second : List Char) : Ordering :=
  (compare first.length second.length).then (compare first second)

def hasMinus (text : List Char) : Bool :=
  text.head? = some '-'

/-- Texts with a minus sign come before texts without one, and are in the reverse order
of what follows the sign. -/
def textOrder (first second : List Char) : Ordering :=
  match hasMinus first, hasMinus second with
  | true, true => (numeralOrder first.tail second.tail).swap
  | true, false => .lt
  | false, true => .gt
  | false, false => numeralOrder first second

/-! ## Digits of natural numbers -/

theorem compare_concat {first second : List Char} (lengthEq : first.length = second.length)
    (last otherLast : Char) :
    compare (first ++ [last]) (second ++ [otherLast]) =
      (compare first second).then (compare last otherLast) := by
  induction first generalizing second with
  | nil =>
      obtain rfl : second = [] := List.eq_nil_of_length_eq_zero lengthEq.symm
      simp [List.compare_cons_cons]
  | cons character first ih =>
      cases second with
      | nil => simp at lengthEq
      | cons other second =>
          have tailLength : first.length = second.length := by simpa using lengthEq
          simp only [List.cons_append, List.compare_cons_cons, ih tailLength,
            Ordering.then_assoc]

theorem numeralOrder_of_length_lt {first second : List Char}
    (shorter : first.length < second.length) : numeralOrder first second = .lt := by
  rw [numeralOrder, Nat.compare_eq_lt.mpr shorter, Ordering.lt_then]

theorem numeralOrder_of_length_gt {first second : List Char}
    (longer : second.length < first.length) : numeralOrder first second = .gt := by
  rw [numeralOrder, Nat.compare_eq_gt.mpr longer, Ordering.gt_then]

/-- The last digits decide between numerals that agree before them. -/
theorem numeralOrder_concat (first second : List Char) (last otherLast : Char) :
    numeralOrder (first ++ [last]) (second ++ [otherLast]) =
      (numeralOrder first second).then (compare last otherLast) := by
  rcases Nat.lt_trichotomy first.length second.length with shorter | same | longer
  · rw [numeralOrder_of_length_lt shorter, numeralOrder_of_length_lt (by simpa using shorter),
      Ordering.lt_then]
  · simp [numeralOrder, same, compare_concat same]
  · rw [numeralOrder_of_length_gt longer, numeralOrder_of_length_gt (by simpa using longer),
      Ordering.gt_then]

private theorem compare_digitChar_fin : ∀ first second : Fin 10,
    compare (Nat.digitChar first.val) (Nat.digitChar second.val) =
      compare first.val second.val := by
  decide

theorem compare_digitChar {first second : Nat} (firstBound : first < 10)
    (secondBound : second < 10) :
    compare (Nat.digitChar first) (Nat.digitChar second) = compare first second :=
  compare_digitChar_fin ⟨first, firstBound⟩ ⟨second, secondBound⟩

/-- The last digits decide between numbers that agree before them. -/
theorem compare_shift (first second : Nat) {last otherLast : Nat} (lastBound : last < 10)
    (otherBound : otherLast < 10) :
    compare (first * 10 + last) (second * 10 + otherLast) =
      (compare first second).then (compare last otherLast) := by
  rcases Nat.lt_trichotomy first second with below | same | above
  · rw [Nat.compare_eq_lt.mpr below, Ordering.lt_then, Nat.compare_eq_lt]
    omega
  · subst same
    rw [Nat.compare_eq_eq.mpr rfl, Ordering.eq_then]
    rcases Nat.lt_trichotomy last otherLast with below | same | above
    · rw [Nat.compare_eq_lt.mpr below, Nat.compare_eq_lt]
      omega
    · rw [same, Nat.compare_eq_eq.mpr rfl, Nat.compare_eq_eq.mpr rfl]
    · rw [Nat.compare_eq_gt.mpr above, Nat.compare_eq_gt]
      omega
  · rw [Nat.compare_eq_gt.mpr above, Ordering.gt_then, Nat.compare_eq_gt]
    omega

theorem one_lt_length_digits_shift {number value : Nat} (positive : 0 < number)
    (bound : value < 10) : 1 < (digits (number * 10 + value)).length := by
  have nonempty : 0 < (digits number).length :=
    List.length_pos_iff.mpr Nat.toDigits_ne_nil
  rw [digits_shift positive bound, List.length_append, List.length_singleton]
  omega

/-- Natural numbers compare as their digits do. -/
theorem numeralOrder_digits (first second : Nat) :
    numeralOrder (digits first) (digits second) = compare first second := by
  -- Both numbers are taken apart at their last digit, so all before it compares by
  -- induction.
  induction first using decimalInduction generalizing second with
  | digit last lastBound =>
      induction second using decimalInduction with
      | digit otherLast otherBound =>
          rw [digits_of_lt lastBound, digits_of_lt otherBound,
            ← compare_digitChar lastBound otherBound]
          simp [numeralOrder, List.compare_cons_cons]
      | shift second otherLast positive otherBound _ =>
          have longer := one_lt_length_digits_shift positive otherBound
          rw [numeralOrder_of_length_lt (by simpa [digits_of_lt lastBound] using longer)]
          exact (Nat.compare_eq_lt.mpr (by omega)).symm
  | shift first last positive lastBound ih =>
      induction second using decimalInduction with
      | digit otherLast otherBound =>
          have longer := one_lt_length_digits_shift positive lastBound
          rw [numeralOrder_of_length_gt (by simpa [digits_of_lt otherBound] using longer)]
          exact (Nat.compare_eq_gt.mpr (by omega)).symm
      | shift second otherLast otherPositive otherBound _ =>
          rw [digits_shift positive lastBound, digits_shift otherPositive otherBound,
            numeralOrder_concat, ih, compare_digitChar lastBound otherBound,
            compare_shift first second lastBound otherBound]

/-! ## Integers -/

theorem hasMinus_characters (number : Int) :
    hasMinus (characters number) = decide (number < 0) := by
  simp only [hasMinus, head?_characters_eq_minus_iff]

theorem compare_eq_compare {first second : Int} {firstMagnitude secondMagnitude : Nat}
    (below_iff : first < second ↔ firstMagnitude < secondMagnitude)
    (above_iff : second < first ↔ secondMagnitude < firstMagnitude) :
    compare first second = compare firstMagnitude secondMagnitude := by
  rcases Nat.lt_trichotomy firstMagnitude secondMagnitude with below | same | above
  · rw [Nat.compare_eq_lt.mpr below, Int.compare_eq_lt.mpr (below_iff.mpr below)]
  · rw [Nat.compare_eq_eq.mpr same, Int.compare_eq_eq]
    omega
  · rw [Nat.compare_eq_gt.mpr above, Int.compare_eq_gt.mpr (above_iff.mpr above)]

/-- Integers compare as their canonical texts do. -/
theorem textOrder_characters (first second : Int) :
    textOrder (characters first) (characters second) = order first second := by
  rw [textOrder, hasMinus_characters, hasMinus_characters, order]
  by_cases firstNegative : first < 0
  · by_cases secondNegative : second < 0
    · simp only [firstNegative, secondNegative, decide_true]
      rw [characters_of_neg firstNegative, characters_of_neg secondNegative, List.tail_cons,
        List.tail_cons, numeralOrder_digits, Nat.compare_swap]
      exact (compare_eq_compare (by omega) (by omega)).symm
    · simp only [firstNegative, secondNegative, decide_true, decide_false]
      exact (Int.compare_eq_lt.mpr (by omega)).symm
  · by_cases secondNegative : second < 0
    · simp only [firstNegative, secondNegative, decide_true, decide_false]
      exact (Int.compare_eq_gt.mpr (by omega)).symm
    · simp only [firstNegative, secondNegative, decide_false]
      rw [characters_of_nonneg (by omega), characters_of_nonneg (by omega), numeralOrder_digits]
      exact (compare_eq_compare (by omega) (by omega)).symm

theorem IsCanonical.exists_read {text : String} (isCanonical : IsCanonical text.toList) :
    ∃ number, (Literal.readDecimal text).value = .ok number ∧
      text.toList = characters number := by
  obtain ⟨number, denotes, printed⟩ := isCanonical.exists_denotes
  exact ⟨number, Literal.value_readDecimal_eq_ok_iff.mpr denotes, printed.symm⟩

/-- Canonical decimal texts are read as integers that are in the order of the texts.
This order is equal exactly for equal texts, and less exactly if the difference of the
integers is negative. -/
theorem order_eq_textOrder {first second : String} (isFirst : IsCanonical first.toList)
    (isSecond : IsCanonical second.toList) :
    ∃ firstNumber secondNumber difference : Int,
      (Literal.readDecimal first).value = .ok firstNumber ∧
      (Literal.readDecimal second).value = .ok secondNumber ∧
      order firstNumber secondNumber = textOrder first.toList second.toList ∧
      (order firstNumber secondNumber = .eq ↔ first = second) ∧
      Primitive.Gives "-" [firstNumber, secondNumber] difference ∧
      (order firstNumber secondNumber = .lt ↔ difference < 0) := by
  obtain ⟨firstNumber, firstRead, firstText⟩ := isFirst.exists_read
  obtain ⟨secondNumber, secondRead, secondText⟩ := isSecond.exists_read
  refine ⟨firstNumber, secondNumber, firstNumber - secondNumber, firstRead, secondRead,
    ?_, ?_, ?_, ?_⟩
  · rw [firstText, secondText, textOrder_characters]
  · rw [order, Int.compare_eq_eq, ← String.toList_inj, firstText, secondText, characters_inj]
  · exact (Primitive.gives_subtract_iff (by simp)).mpr (by simp)
  · rw [order, Int.compare_eq_lt]
    omega

/-- A negative number is less if it has more digits. -/
theorem order_eq_textOrder_negative :
    (IsCanonical "-10".toList ∧ IsCanonical "-9".toList) ∧
      textOrder "-10".toList "-9".toList = .lt ∧ order (-10) (-9) = .lt ∧
      ∃ difference, Primitive.Gives "-" [-10, -9] difference ∧ difference < 0 := by
  have firstText : characters (-10) = "-10".toList := by decide
  have secondText : characters (-9) = "-9".toList := by decide
  have isFirst : IsCanonical "-10".toList := firstText ▸ isCanonical_characters (-10)
  have isSecond : IsCanonical "-9".toList := secondText ▸ isCanonical_characters (-9)
  have readFirst : (Literal.readDecimal "-10").value = .ok (-10) := by decide
  have readSecond : (Literal.readDecimal "-9").value = .ok (-9) := by decide
  obtain ⟨first, second, difference, isFirstNumber, isSecondNumber, sameOrder, -, gives,
    below_iff⟩ := order_eq_textOrder isFirst isSecond
  obtain rfl : first = -10 := Except.ok.inj (isFirstNumber.symm.trans readFirst)
  obtain rfl : second = -9 := Except.ok.inj (isSecondNumber.symm.trans readSecond)
  have less : textOrder "-10".toList "-9".toList = .lt := by decide
  have below := sameOrder.trans less
  exact ⟨⟨isFirst, isSecond⟩, less, below, difference, gives, below_iff.mp below⟩

end Decimal

end ExactInteger
