import ExactInteger.Decimal

/-!
# Arities

How many values are expected: possibly a least number and possibly a greatest.
Checking a number of values finds an error exactly when the number is not
admitted (`error?_eq_none_iff`).
-/

namespace ExactInteger

structure Arity where
  least : Option Nat
  greatest : Option Nat

inductive ArityError where
  | tooFew (least : Nat)
  | tooMany (greatest : Nat)
  deriving DecidableEq

def ArityError.message : ArityError → String
  | .tooFew least =>
      "Too few values, expecting at least " ++ Decimal.ofNat least ++ "."
  | .tooMany greatest =>
      "Too many values, expecting at most " ++ Decimal.ofNat greatest ++ "."

namespace Arity

def any : Arity :=
  ⟨none, none⟩

def atLeast (least : Nat) : Arity :=
  ⟨some least, none⟩

def exactly (count : Nat) : Arity :=
  ⟨some count, some count⟩

def Admits (arity : Arity) (count : Nat) : Prop :=
  (∀ least ∈ arity.least, least ≤ count) ∧
    ∀ greatest ∈ arity.greatest, count ≤ greatest

/-- What is wrong with a number of values, checked against the least admitted
number first. -/
def error? (arity : Arity) (count : Nat) : Option ArityError :=
  match arity.least.filter (count < ·) with
  | some least => some (.tooFew least)
  | none =>
      match arity.greatest.filter (· < count) with
      | some greatest => some (.tooMany greatest)
      | none => none

theorem error?_eq_none_iff {arity : Arity} {count : Nat} :
    arity.error? count = none ↔ arity.Admits count := by
  have enough : arity.least.filter (count < ·) = none ↔
      ∀ least ∈ arity.least, least ≤ count := by
    simp [Option.filter_eq_none_iff]
  have notMore : arity.greatest.filter (· < count) = none ↔
      ∀ greatest ∈ arity.greatest, count ≤ greatest := by
    simp [Option.filter_eq_none_iff]
  rw [Admits, ← enough, ← notMore, error?]
  cases arity.least.filter (count < ·) with
  | some least => simp
  | none =>
      cases arity.greatest.filter (· < count) with
      | some greatest => simp
      | none => simp

@[simp]
theorem admits_any (count : Nat) : any.Admits count := by
  simp [Admits, any]

@[simp]
theorem admits_atLeast {least count : Nat} :
    (atLeast least).Admits count ↔ least ≤ count := by
  simp [Admits, atLeast]

@[simp]
theorem admits_exactly {expected count : Nat} :
    (exactly expected).Admits count ↔ count = expected := by
  simp [Admits, exactly]
  omega

end Arity

end ExactInteger
