import ExactInteger.Decimal

/-!
# Errors of values

What can go wrong when a value is read, narrowed or computed, and how each
error is worded.
-/

namespace ExactInteger

/-- Why a value could not be read, narrowed or computed. -/
inductive ValueError where
  | malformedLiteral (text : String)
  /-- Literals are written in a radix between 2 and 36. -/
  | invalidRadix (radix : Nat)
  /-- The number has no place in a 64-bit signed word. -/
  | outOfRange (number : Int)
  | arity (name message : String)
  | divisionByZero (name : String)
  deriving DecidableEq

def ValueError.message : ValueError → String
  | .malformedLiteral text => "malformed integer literal: `" ++ text ++ "`"
  | .invalidRadix radix =>
      "invalid radix " ++ Decimal.ofNat radix ++ ", expecting 2 to 36"
  | .outOfRange number =>
      Decimal.ofInt number ++ " does not fit in a native integer"
  | .arity name message => name ++ ": " ++ message
  | .divisionByZero name => name ++ ": division by zero"

end ExactInteger
