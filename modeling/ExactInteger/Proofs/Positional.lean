import Mathlib.Algebra.BigOperators.Fin
import Mathlib.Tactic.Ring

/-!
# Positional values

A list of digit values, most significant first, stands for the sum of its
members, each multiplied by the radix as often as there are digits after it.
Concatenation shifts the first list by the length of the second, the sum is
bounded by the power of the radix, and reading digits one by one from the left
computes it.
-/

namespace ExactInteger

/-- The number that a list of digit values stands for in a radix, the most
significant digit first. -/
def positional (radix : Nat) (values : List Nat) : Nat :=
  ∑ index : Fin values.length,
    values[index] * radix ^ (values.length - 1 - index)

@[simp]
theorem positional_nil (radix : Nat) : positional radix [] = 0 := by
  simp [positional]

theorem positional_cons (radix value : Nat) (values : List Nat) :
    positional radix (value :: values) =
      value * radix ^ values.length + positional radix values := by
  have shifted : ∀ index : Fin values.length,
      values.length - (index.val + 1) = values.length - 1 - index.val := by
    intro index
    omega
  simp [positional, Fin.sum_univ_succ, shifted]

@[simp]
theorem positional_singleton (radix value : Nat) :
    positional radix [value] = value := by
  simp [positional_cons]

theorem positional_append (radix : Nat) (first second : List Nat) :
    positional radix (first ++ second) =
      positional radix first * radix ^ second.length +
        positional radix second := by
  induction first with
  | nil => simp
  | cons value first ih =>
      rw [List.cons_append, positional_cons, positional_cons, ih,
        List.length_append, pow_add]
      ring

/-- Digits whose values lie below the radix stand for less than the radix raised to
their number. -/
theorem positional_lt_pow_length {radix : Nat} {values : List Nat}
    (below : ∀ value ∈ values, value < radix) :
    positional radix values < radix ^ values.length := by
  induction values with
  | nil => simp
  | cons value values ih =>
      obtain ⟨first, rest⟩ := List.forall_mem_cons.mp below
      rw [positional_cons, List.length_cons]
      calc value * radix ^ values.length + positional radix values
          < value * radix ^ values.length + radix ^ values.length :=
            Nat.add_lt_add_left (ih rest) _
        _ = (value + 1) * radix ^ values.length := by ring
        _ ≤ radix * radix ^ values.length := Nat.mul_le_mul_right _ first
        _ = radix ^ (values.length + 1) := (pow_succ' _ _).symm

/-- Reading from the left, which multiplies by the radix before each digit,
computes the positional value. -/
theorem foldl_eq_positional (radix start : Nat) (values : List Nat) :
    values.foldl (fun total value => total * radix + value) start =
      start * radix ^ values.length + positional radix values := by
  induction values generalizing start with
  | nil => simp
  | cons value values ih =>
      rw [List.foldl_cons, ih, positional_cons, List.length_cons, pow_succ]
      ring

end ExactInteger
