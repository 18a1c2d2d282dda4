import ExactInteger.Proofs.PrimitiveValues
import Mathlib.Algebra.BigOperators.Group.List.Basic
import Mathlib.Algebra.BigOperators.Ring.List

/-!
# Laws of sums, products and differences

A sum or a product of many numbers can be taken in parts and in any order, a number of
parts and of numbers in them that is zero included.  A factor can be multiplied into
each number of a sum.  A difference takes the sum of all further numbers off the first,
so these may come in any order; a single number is negated instead.
-/

namespace ExactInteger

namespace Primitive

/-- A primitive puts its results on the parts of a list together to its result on the
whole list, and has the same result on the numbers of a list in any order. -/
structure IsFold (name : String) : Prop where
  flatten : ∀ lists : List (List Int), ∃ results total,
    List.Forall₂ (Gives name) lists results ∧ Gives name results total ∧
      Gives name lists.flatten total
  permuted : ∀ {first second : List Int}, first.Perm second →
    ∃ number, Gives name first number ∧ Gives name second number

theorem isFold_of_gives_iff {name : String} {total : List Int → Int}
    (gives_iff : ∀ {numbers number}, Gives name numbers number ↔ total numbers = number)
    (total_flatten : ∀ lists : List (List Int), total lists.flatten = total (lists.map total))
    (total_perm : ∀ {first second : List Int}, first.Perm second → total first = total second) :
    IsFold name where
  flatten := by
    intro lists
    refine ⟨lists.map total, total lists.flatten, ?_, ?_, gives_iff.mpr rfl⟩
    · rw [List.forall₂_map_right_iff, List.forall₂_same]
      exact fun numbers _ => gives_iff.mpr rfl
    · exact gives_iff.mpr (total_flatten lists).symm
  permuted := by
    intro first second permutation
    exact ⟨total second, gives_iff.mpr (total_perm permutation), gives_iff.mpr rfl⟩

theorem isFold_add : IsFold "+" :=
  isFold_of_gives_iff gives_add_iff (fun _ => List.sum_flatten) List.Perm.sum_eq

theorem isFold_multiply : IsFold "*" :=
  isFold_of_gives_iff gives_multiply_iff (fun _ => List.prod_flatten) List.Perm.prod_eq

/-- The laws of sums, products and differences.  Sums and products are taken in parts
and in any order.  A product with a sum is the sum of the products.  The difference of
a number and one or more others is the number plus the negated sum of the others, in
any order of these.  The negation of a single number is the only number whose sum with
it is zero. -/
theorem fold_laws :
    IsFold "+" ∧ IsFold "*" ∧
    (∀ (factor : Int) (numbers : List Int), ∃ sum products total,
      Gives "+" numbers sum ∧ Gives "*" [factor, sum] total ∧
        List.Forall₂ (fun number product => Gives "*" [factor, number] product)
          numbers products ∧
        Gives "+" products total) ∧
    (∀ (first : Int) {others : List Int}, others ≠ [] → ∃ sum negated difference,
      Gives "+" others sum ∧ Gives "-" [sum] negated ∧
        Gives "+" [first, negated] difference ∧ Gives "-" (first :: others) difference ∧
        ∀ {permuted : List Int}, others.Perm permuted →
          Gives "-" (first :: permuted) difference) ∧
    ∀ number : Int, ∃ opposite, Gives "-" [number] opposite ∧
      ∀ other, Gives "+" [number, other] 0 ↔ other = opposite := by
  refine ⟨isFold_add, isFold_multiply, ?_, ?_, ?_⟩
  · intro factor numbers
    refine ⟨numbers.sum, numbers.map (factor * ·), factor * numbers.sum,
      gives_add_iff.mpr rfl, gives_multiply_iff.mpr List.prod_pair, ?_, ?_⟩
    · rw [List.forall₂_map_right_iff, List.forall₂_same]
      exact fun number _ => gives_multiply_iff.mpr List.prod_pair
    · rw [gives_add_iff, List.sum_map_mul_left, List.map_id']
  · intro first others nonempty
    refine ⟨others.sum, -others.sum, first - others.sum, gives_add_iff.mpr rfl,
      gives_negate_iff.mpr rfl, ?_, (gives_subtract_iff nonempty).mpr rfl, ?_⟩
    · rw [gives_add_iff, List.sum_pair, Int.sub_eq_add_neg]
    · intro permuted permutation
      have permutedNonempty : permuted ≠ [] := by
        rintro rfl
        exact nonempty permutation.eq_nil
      rw [gives_subtract_iff permutedNonempty, permutation.sum_eq]
  · intro number
    refine ⟨-number, gives_negate_iff.mpr rfl, fun other => ?_⟩
    rw [gives_add_iff, List.sum_pair]
    omega

/-- Lists without numbers do not count, nor does the order of what is taken off. -/
theorem fold_laws_in_parts :
    (∃ results, List.Forall₂ (Gives "+") [[1, 2], [], [-4]] results ∧
        Gives "+" results (-1)) ∧
      [(1 : Int), 2, 3].Perm [3, 1, 2] ∧
      Gives "-" [10, 1, 2, 3] 4 ∧ Gives "-" [10, 3, 1, 2] 4 := by
  obtain ⟨sums, -, -, differences, -⟩ := fold_laws
  have permutation : [(1 : Int), 2, 3].Perm [3, 1, 2] := by decide
  refine ⟨?_, permutation, ?_⟩
  · obtain ⟨results, total, parts, whole, flat⟩ := sums.flatten [[1, 2], [], [-4]]
    obtain rfl : total = -1 := flat.unique (gives_add_iff.mpr rfl)
    exact ⟨results, parts, whole⟩
  · obtain ⟨sum, negated, difference, -, -, -, gives, permuted⟩ :=
      differences 10 (by decide : [(1 : Int), 2, 3] ≠ [])
    obtain rfl : difference = 4 :=
      gives.unique ((gives_subtract_iff (by decide)).mpr rfl)
    exact ⟨gives, permuted permutation⟩

end Primitive

end ExactInteger
