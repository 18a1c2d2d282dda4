/-!
# Decimal text

The canonical decimal text of a number: the digits of its magnitude without
leading zeros, after a minus sign exactly when the number is negative.  Zero is
written `0`.
-/

namespace ExactInteger

namespace Decimal

/-- The decimal digits of a natural number, most significant first. -/
def digits (number : Nat) : List Char :=
  Nat.toDigits 10 number

def ofNat (number : Nat) : String :=
  String.ofList (digits number)

/-- The characters of the canonical decimal text of an integer. -/
def characters (number : Int) : List Char :=
  if number < 0 then '-' :: digits number.natAbs else digits number.natAbs

def ofInt (number : Int) : String :=
  String.ofList (characters number)

@[simp]
theorem toList_ofNat (number : Nat) : (ofNat number).toList = digits number :=
  String.toList_ofList

@[simp]
theorem toList_ofInt (number : Int) :
    (ofInt number).toList = characters number :=
  String.toList_ofList

theorem characters_of_nonneg {number : Int} (nonneg : 0 ≤ number) :
    characters number = digits number.natAbs := by
  simp [characters, Int.not_lt.mpr nonneg]

theorem characters_of_neg {number : Int} (negative : number < 0) :
    characters number = '-' :: digits number.natAbs := by
  simp [characters, negative]

end Decimal

end ExactInteger
