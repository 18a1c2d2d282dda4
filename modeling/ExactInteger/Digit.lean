/-!
# Digits

The digits are the ten decimal digits and the twenty-six letters of ASCII, in
either case.  A radix admits the digits whose value lies below it.
-/

namespace ExactInteger

namespace Digit

/-- The value of a digit: `0` to `9`, then `a` to `z` from ten on, in either
case. -/
def value? (character : Char) : Option Nat :=
  let code := character.toNat
  if 0x30 ≤ code ∧ code ≤ 0x39 then some (code - 0x30)
  else if 0x41 ≤ code ∧ code ≤ 0x5A then some (code - 0x41 + 10)
  else if 0x61 ≤ code ∧ code ≤ 0x7A then some (code - 0x61 + 10)
  else none

def ofRadix? (radix : Nat) (character : Char) : Option Nat :=
  (value? character).filter (· < radix)

def belongsTo (radix : Nat) (character : Char) : Bool :=
  (ofRadix? radix character).isSome

theorem ofRadix?_eq_some_iff {radix value : Nat} {character : Char} :
    ofRadix? radix character = some value ↔
      value? character = some value ∧ value < radix := by
  simp [ofRadix?, Option.filter_eq_some_iff]

end Digit

end ExactInteger
