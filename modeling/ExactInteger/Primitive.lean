import ExactInteger.Arity
import ExactInteger.Log
import ExactInteger.Value
import ExactInteger.ValueError

/-!
# Primitives

The seven arithmetic primitives, each with the name it is found by and the
numbers of arguments it takes.  A primitive computes only on an argument list
that its arity admits, and divides only by a divisor that is not zero; the two
conditions are hypotheses of the definitions, so no other case can arise.
-/

namespace ExactInteger

/-- The three ways to divide one integer by another. -/
inductive Division where
  | quotient
  | remainder
  | modulo
  deriving DecidableEq

namespace Division

def name : Division → String
  | .quotient => "quotient"
  | .remainder => "remainder"
  | .modulo => "modulo"

/-- The result of a division. The quotient is rounded toward zero, the remainder
goes with it and has the sign of the dividend, and the modulo has the sign of
the divisor. -/
def result (division : Division) (dividend divisor : Int)
    (_nonzero : divisor ≠ 0) : Int :=
  match division with
  | .quotient => dividend.tdiv divisor
  | .remainder => dividend.tmod divisor
  | .modulo => dividend.fmod divisor

end Division

inductive Primitive where
  | add
  | multiply
  | subtract
  | absolute
  | divide (division : Division)
  deriving DecidableEq

namespace Primitive

def all : List Primitive :=
  [.add, .multiply, .subtract, .absolute, .divide .quotient,
    .divide .remainder, .divide .modulo]

def name : Primitive → String
  | .add => "+"
  | .multiply => "*"
  | .subtract => "-"
  | .absolute => "abs"
  | .divide division => division.name

def arity : Primitive → Arity
  | .add => .any
  | .multiply => .any
  | .subtract => .atLeast 1
  | .absolute => .exactly 1
  | .divide _ => .exactly 2

def description (primitive : Primitive) : String :=
  "primitive " ++ primitive.name

def lookup (name : String) : Option Primitive :=
  all.find? (·.name == name)

/-- What a primitive computes from a list of numbers that its arity admits. A
difference takes all further numbers off the first, and a single number is
negated. -/
def compute (primitive : Primitive) (numbers : List Int)
    (admitted : primitive.arity.Admits numbers.length) :
    Except ValueError Int :=
  match primitive, numbers with
  | .add, numbers => .ok (numbers.foldl (· + ·) 0)
  | .multiply, numbers => .ok (numbers.foldl (· * ·) 1)
  | .subtract, [number] => .ok (-number)
  | .subtract, first :: second :: rest =>
      .ok ((second :: rest).foldl (· - ·) first)
  | .subtract, [] => absurd admitted (by simp [arity])
  | .absolute, [number] => .ok number.natAbs
  | .absolute, [] => absurd admitted (by simp [arity])
  | .absolute, _ :: _ :: _ => absurd admitted (by simp [arity])
  | .divide division, [dividend, divisor] =>
      if nonzero : divisor ≠ 0 then
        .ok (division.result dividend divisor nonzero)
      else
        .error (.divisionByZero division.name)
  | .divide _, [] => absurd admitted (by simp [arity])
  | .divide _, [_] => absurd admitted (by simp [arity])
  | .divide _, _ :: _ :: _ :: _ => absurd admitted (by simp [arity])

/-- The result of a primitive on any list of values. The number of values is
checked before anything else. -/
def result (primitive : Primitive) (values : List Value) :
    Except ValueError Value :=
  let numbers := values.map Value.number
  match fault : primitive.arity.error? numbers.length with
  | some error => .error (.arity primitive.name error.message)
  | none =>
      (primitive.compute numbers (Arity.error?_eq_none_iff.mp fault)).map
        Value.integer

def applicationRecord (primitive : Primitive) (count : Nat) : LogRecord :=
  ⟨.trace, "applying " ++ primitive.name ++ " to " ++ Decimal.ofNat count ++
    " argument(s)"⟩

/-- Runs a primitive, which is logged whether it succeeds or fails. -/
def apply (primitive : Primitive) (values : List Value) :
    Logged (Except ValueError Value) := do
  Logged.emit (primitive.applicationRecord values.length)
  pure (primitive.result values)

end Primitive

end ExactInteger
