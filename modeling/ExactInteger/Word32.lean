import ExactInteger.Digit

/-!
# Numbers of 32 bits

An unsigned number of 32 bits is written with decimal digits after an optional
plus sign.  Digits are read from the left, so a number that grows too large is
noticed before a later character that is no digit.
-/

namespace ExactInteger

namespace Word32

inductive Error where
  | empty
  | invalidDigit
  | overflow
  deriving DecidableEq

def Error.message : Error → String
  | .empty => "cannot parse integer from empty string"
  | .invalidDigit => "invalid digit found in string"
  | .overflow => "number too large to fit in target type"

/-- How many numbers of 32 bits there are. -/
def size : Nat :=
  Nat.pow 2 32

/-- The number that decimal digits stand for when they follow the digits of a
given number. Reading ends at the first character that is no digit, or where the
number leaves 32 bits. -/
def readAfter (value : Nat) : List Char → Except Error Nat
  | [] => .ok value
  | character :: rest =>
      match Digit.ofRadix? 10 character with
      | none => .error .invalidDigit
      | some digit =>
          if value * 10 + digit < size then
            readAfter (value * 10 + digit) rest
          else
            .error .overflow

/-- Reads an unsigned number of 32 bits: decimal digits after an optional plus
sign. -/
def read (text : List Char) : Except Error Nat :=
  match text with
  | [] => .error .empty
  | ['+'] => .error .invalidDigit
  | '+' :: digits => readAfter 0 digits
  | digits => readAfter 0 digits

end Word32

end ExactInteger
