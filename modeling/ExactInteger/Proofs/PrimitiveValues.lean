import ExactInteger.Proofs.PrimitiveOutcomes
import Mathlib.Algebra.BigOperators.Group.List.Basic
import Mathlib.Algebra.Ring.Int.Defs

/-!
# Numbers that primitives give

A primitive that is found by its name and applied to numbers gives its result, if
that is a number.  The primitives of addition and multiplication give the sum and
the product of any numbers, and a division gives what it makes of two numbers of
which the second is not zero.  Laws of arithmetic about the primitives are stated by
what they give.
-/

namespace ExactInteger

namespace Primitive

/-- The primitive of a name, applied to numbers, has a number as its result. -/
def Gives (name : String) (numbers : List Int) (number : Int) : Prop :=
  ∃ primitive, lookup name = some primitive ∧
    (primitive.apply (numbers.map Value.integer)).value = .ok (.integer number)

variable {numbers : List Int} {number : Int}

theorem gives_iff_result {primitive : Primitive} :
    Gives primitive.name numbers number ↔
      primitive.result (numbers.map Value.integer) = .ok (.integer number) := by
  constructor
  · rintro ⟨other, found, applied⟩
    rw [lookup_eq_some_iff.mpr rfl, Option.some.injEq] at found
    rw [found]
    exact applied
  · intro result
    exact ⟨primitive, lookup_eq_some_iff.mpr rfl, result⟩

/-- A primitive gives no two different numbers. -/
theorem Gives.unique {name : String} {other : Int} (gives : Gives name numbers number)
    (givesOther : Gives name numbers other) : number = other := by
  obtain ⟨primitive, found, applied⟩ := gives
  obtain ⟨same, foundSame, appliedSame⟩ := givesOther
  obtain rfl := Option.some.inj (found.symm.trans foundSame)
  exact Value.integer.inj (Except.ok.inj (applied.symm.trans appliedSame))

theorem map_number_map_integer (numbers : List Int) :
    (numbers.map Value.integer).map Value.number = numbers := by
  rw [List.map_map]
  exact List.map_id numbers

/-- A primitive gives what it computes from the numbers, if it takes so many. -/
theorem gives_iff_compute {primitive : Primitive}
    (admitted : primitive.arity.Admits numbers.length) :
    Gives primitive.name numbers number ↔
      primitive.compute numbers admitted = .ok number := by
  have same := map_number_map_integer numbers
  have admittedSame : primitive.arity.Admits
      ((numbers.map Value.integer).map Value.number).length := by
    rwa [same]
  rw [gives_iff_result, result_of_admits admittedSame]
  simp only [same]
  cases primitive.compute numbers admitted <;> simp [Except.map]

theorem gives_add_iff : Gives "+" numbers number ↔ numbers.sum = number := by
  have gives : Gives add.name numbers number ↔
      add.compute numbers (Arity.admits_any _) = .ok number :=
    gives_iff_compute _
  simp only [compute, Except.ok.injEq] at gives
  rw [List.sum_eq_foldl]
  exact gives

theorem gives_multiply_iff : Gives "*" numbers number ↔ numbers.prod = number := by
  have gives : Gives multiply.name numbers number ↔
      multiply.compute numbers (Arity.admits_any _) = .ok number :=
    gives_iff_compute _
  simp only [compute, Except.ok.injEq] at gives
  rw [List.prod_eq_foldl]
  exact gives

theorem gives_negate_iff {negated : Int} : Gives "-" [number] negated ↔ -number = negated := by
  have gives : Gives subtract.name [number] negated ↔
      subtract.compute [number] (Arity.admits_atLeast.mpr (by simp)) = .ok negated :=
    gives_iff_compute _
  simp only [compute, Except.ok.injEq] at gives
  exact gives

/-- Taking numbers off one after another takes off their sum. -/
theorem foldl_sub_eq (start : Int) (numbers : List Int) :
    numbers.foldl (· - ·) start = start - numbers.sum := by
  induction numbers generalizing start with
  | nil => simp
  | cons number numbers ih =>
      rw [List.foldl_cons, ih, List.sum_cons]
      omega

theorem gives_subtract_iff {first : Int} (nonempty : numbers ≠ []) :
    Gives "-" (first :: numbers) number ↔ first - numbers.sum = number := by
  obtain ⟨second, rest, rfl⟩ := List.exists_cons_of_ne_nil nonempty
  have gives : Gives subtract.name (first :: second :: rest) number ↔
      subtract.compute (first :: second :: rest) (Arity.admits_atLeast.mpr (by simp)) =
        .ok number :=
    gives_iff_compute _
  simp only [compute, Except.ok.injEq] at gives
  rw [← foldl_sub_eq]
  exact gives

theorem gives_divide_iff (division : Division) {dividend divisor : Int}
    (nonzero : divisor ≠ 0) :
    Gives division.name [dividend, divisor] number ↔
      division.result dividend divisor nonzero = number := by
  have gives : Gives (divide division).name [dividend, divisor] number ↔
      (divide division).compute [dividend, divisor] (Arity.admits_exactly.mpr rfl) =
        .ok number :=
    gives_iff_compute _
  simp only [compute, dif_pos nonzero, Except.ok.injEq] at gives
  exact gives

end Primitive

end ExactInteger
