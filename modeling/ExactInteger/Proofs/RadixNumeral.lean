import ExactInteger.Proofs.LiteralGrammar
import Mathlib.Data.Nat.Digits.Lemmas

/-!
# Numerals of a radix

A natural number has one numeral in each radix, of small letters from ten on and without
leading zeros, and an integer is spelled as the numeral of its magnitude, after a minus
sign if it is negative.  Its spelling is a literal that denotes it, and digits that do
not start with a zero are the numeral of their positional value.
-/

namespace ExactInteger

namespace Digit

/-- The digit that has a value, a small letter from ten on. -/
def ofValue (value : Nat) : Char :=
  smallAlphabet.getD value '0'

private theorem smallAlphabet_fin : ∀ value : Fin 36,
    smallAlphabet[value.val]? = some (ofValue value.val) := by
  decide

variable {radix value : Nat}

@[simp]
theorem ofValue_zero : ofValue 0 = '0' :=
  rfl

theorem counts_ofValue (isRadix : radix ≤ 36) (bound : value < radix) :
    Counts radix (ofValue value) value :=
  ⟨Or.inl (smallAlphabet_fin ⟨value, by omega⟩), bound⟩

theorem ofValue_ne_zero (isRadix : radix ≤ 36) (bound : value < radix) (nonzero : value ≠ 0) :
    ofValue value ≠ '0' := by
  intro same
  have counts := counts_ofValue isRadix bound
  rw [same] at counts
  exact nonzero counts.eq_zero

theorem ofValue_ne_minus (isRadix : radix ≤ 36) (bound : value < radix) :
    ofValue value ≠ '-' :=
  (counts_ofValue isRadix bound).ne_of_value?_eq_none rfl

end Digit

namespace Literal

/-! ## Natural numbers -/

/-- The digits of a natural number in a radix, the most significant first. -/
def numeral (radix number : Nat) : List Char :=
  if number = 0 then ['0'] else (Nat.digits radix number).reverse.map Digit.ofValue

variable {radix : Nat}

theorem positional_eq_ofDigits (radix : Nat) (values : List Nat) :
    positional radix values = Nat.ofDigits radix values.reverse := by
  induction values with
  | nil => simp
  | cons value values ih =>
      rw [positional_cons, ih, List.reverse_cons, Nat.ofDigits_append, List.length_reverse,
        Nat.ofDigits_singleton, Nat.mul_comm, Nat.add_comm]

theorem counted_map_ofValue (isRadix : radix ≤ 36) {values : List Nat}
    (below : ∀ value ∈ values, value < radix) :
    List.Forall₂ (Digit.Counts radix) (values.map Digit.ofValue) values := by
  rw [List.forall₂_map_left_iff, List.forall₂_same]
  exact fun value member => Digit.counts_ofValue isRadix (below value member)

theorem exists_counted_numeral (isRadix : IsRadix radix) (number : Nat) :
    ∃ values, List.Forall₂ (Digit.Counts radix) (numeral radix number) values ∧
      positional radix values = number := by
  obtain ⟨lower, upper⟩ := isRadix
  by_cases zero : number = 0
  · refine ⟨[0], ?_, by simp [zero]⟩
    rw [numeral, if_pos zero]
    exact .cons (Digit.counts_ofValue upper (by omega)) .nil
  · refine ⟨(Nat.digits radix number).reverse, ?_, ?_⟩
    · rw [numeral, if_neg zero]
      apply counted_map_ofValue upper
      intro value member
      exact Nat.digits_lt_base (by omega) (List.mem_reverse.mp member)
    · rw [positional_eq_ofDigits, List.reverse_reverse, Nat.ofDigits_digits]

theorem numeral_ne_nil (radix number : Nat) : numeral radix number ≠ [] := by
  by_cases zero : number = 0
  · simp [numeral, zero]
  · simp [numeral, zero, Nat.digits_ne_nil_iff_ne_zero]

theorem numeral_eq_zero_iff (isRadix : IsRadix radix) {number : Nat} :
    numeral radix number = ['0'] ↔ number = 0 := by
  constructor
  · intro spelled
    obtain ⟨values, counted, rfl⟩ := exists_counted_numeral isRadix number
    rw [spelled] at counted
    obtain ⟨value, rest, counts, nilCounted, rfl⟩ :=
      List.forall₂_cons_left_iff.mp counted
    rw [List.forall₂_nil_left_iff.mp nilCounted, positional_singleton, counts.eq_zero]
  · rintro rfl
    rfl

/-- Digits with no leading zero are the numeral of their positional value. -/
theorem numeral_positional_cons (isRadix : IsRadix radix) {leading : Nat} {values : List Nat}
    (nonzero : leading ≠ 0) (below : ∀ value ∈ leading :: values, value < radix) :
    numeral radix (positional radix (leading :: values)) =
      (leading :: values).map Digit.ofValue := by
  obtain ⟨lower, -⟩ := isRadix
  have positive : positional radix (leading :: values) ≠ 0 := by
    have power : 0 < radix ^ values.length := Nat.pow_pos (by omega)
    have product : 0 < leading * radix ^ values.length := Nat.mul_pos (by omega) power
    rw [positional_cons]
    omega
  have digitsEq : Nat.digits radix (positional radix (leading :: values)) =
      (leading :: values).reverse := by
    rw [positional_eq_ofDigits]
    apply Nat.digits_ofDigits radix (by omega)
    · intro value member
      exact below value (List.mem_reverse.mp member)
    · intro nonempty
      rw [List.getLast_reverse]
      exact nonzero
  rw [numeral, if_neg positive, digitsEq, List.reverse_reverse]

/-! ## Integers -/

/-- The numeral of the magnitude of an integer, with a minus sign before it if the
integer is negative. -/
def spelling (radix : Nat) (number : Int) : List Char :=
  if number < 0 then '-' :: numeral radix number.natAbs else numeral radix number.natAbs

/-- The spelling of an integer is a literal that denotes it. -/
theorem denotes_spelling (isRadix : IsRadix radix) (number : Int) :
    Denotes radix (spelling radix number) number := by
  obtain ⟨values, counted, valueEq⟩ := exists_counted_numeral isRadix number.natAbs
  have nonempty := numeral_ne_nil radix number.natAbs
  rw [spelling]
  split
  next negative =>
    have signedEq : Sign.minus.factor * positional radix values = number := by
      rw [valueEq, Sign.factor]
      omega
    have denotes := Denotes.intro .minus nonempty counted
    exact signedEq ▸ denotes
  next nonneg =>
    have signedEq : Sign.absent.factor * positional radix values = number := by
      rw [valueEq, Sign.factor]
      omega
    have denotes := Denotes.intro .absent nonempty counted
    exact signedEq ▸ denotes

theorem spelling_inj (isRadix : IsRadix radix) {first second : Int} :
    spelling radix first = spelling radix second ↔ first = second := by
  constructor
  · intro same
    have denotes := denotes_spelling isRadix first
    rw [same] at denotes
    exact Denotes.unique isRadix denotes (denotes_spelling isRadix second)
  · rintro rfl
    rfl

end Literal

end ExactInteger
