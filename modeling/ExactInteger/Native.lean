import ExactInteger.ValueError

/-!
# Native words

Machine integers are words of a fixed width, signed in two's complement or
unsigned.  Every word widens to the integer it stands for, and an integer
narrows to a 64-bit signed word exactly when it has one.
-/

namespace ExactInteger

structure NativeFormat where
  signed : Bool
  bits : Nat

def NativeFormat.widen (format : NativeFormat) (word : BitVec format.bits) :
    Int :=
  if format.signed then word.toInt else word.toNat

def NativeFormat.size (format : NativeFormat) : Nat :=
  Nat.pow 2 format.bits

/-- The integers that a format has a word for. -/
def NativeFormat.Holds (format : NativeFormat) (number : Int) : Prop :=
  if format.signed then
    -(format.size : Int) ≤ number * 2 ∧ number * 2 < format.size
  else
    0 ≤ number ∧ number < format.size

/-- The word of a format that an integer wraps to. -/
def NativeFormat.wrap (format : NativeFormat) (number : Int) :
    BitVec format.bits :=
  BitVec.ofInt format.bits number

/-- An integer that a format holds wraps to the word that stands for it. -/
theorem NativeFormat.widen_wrap {format : NativeFormat} {number : Int}
    (holds : format.Holds number) : format.widen (format.wrap number) = number := by
  obtain ⟨signed, bits⟩ := format
  cases signed with
  | true =>
      obtain ⟨lower, upper⟩ := holds
      simp only [widen, wrap, if_true, BitVec.toInt_ofInt]
      exact Int.bmod_eq_of_le_mul_two lower upper
  | false =>
      obtain ⟨lower, upper⟩ := holds
      simp only [widen, wrap, Bool.false_eq_true, if_false, BitVec.toNat_ofInt]
      have remainder := Int.emod_eq_of_lt lower upper
      exact (congrArg (fun rest => (rest.toNat : Int)) remainder).trans
        (Int.toNat_of_nonneg lower)

/-- The 64-bit signed word that stands for an integer, if there is one. -/
def narrow (number : Int) : Except ValueError Int64 :=
  if Int64.minValue.toInt ≤ number ∧ number ≤ Int64.maxValue.toInt then
    .ok (Int64.ofInt number)
  else
    .error (.outOfRange number)

end ExactInteger
