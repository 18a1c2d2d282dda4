/-!
# The order of integers

Integers are ordered and told apart by their numeric value alone, however they
were written.
-/

namespace ExactInteger

def order (first second : Int) : Ordering :=
  compare first second

/-- The numbers in ascending order, each as often as it occurs. -/
def ascending (numbers : List Int) : List Int :=
  numbers.mergeSort

/-- How many different numbers a list holds. -/
def distinctCount (numbers : List Int) : Nat :=
  numbers.eraseDups.length

end ExactInteger
