import ExactInteger.Primitive
import Mathlib.Data.List.Basic

/-!
# Outcomes of primitives

A primitive that is applied to a list of values finds the number of values wrong,
or finds a zero divisor, or has a result.  Which of these it is depends on the
signature of the primitive alone: how many arguments it takes, and whether it
divides.

A primitive takes its arguments by their position.  Computed in that way, with
positions that may lie beyond the end of the list and divisions that may be
undefined, nothing of the kind is ever met, because the number of arguments is
checked first and the divisor next.
-/

namespace ExactInteger

/-! ## Wrong numbers of arguments -/

theorem Arity.error?_eq_some_iff {arity : Arity} {count : Nat} {error : ArityError} :
    arity.error? count = some error ↔
      (∃ least, arity.least = some least ∧ count < least ∧ error = .tooFew least) ∨
        (∀ least, arity.least = some least → least ≤ count) ∧
          ∃ greatest, arity.greatest = some greatest ∧ greatest < count ∧
            error = .tooMany greatest := by
  rw [error?]
  cases fewer : arity.least.filter (count < ·) with
  | some least =>
      obtain ⟨isLeast, below⟩ := Option.filter_eq_some_iff.mp fewer
      have below : count < least := by simpa using below
      simp [isLeast, below, Nat.not_le.mpr below, eq_comm]
  | none =>
      have enough : ∀ least, arity.least = some least → least ≤ count := by
        simpa [Option.filter_eq_none_iff] using fewer
      have notFewer : ¬ ∃ least, arity.least = some least ∧ count < least ∧
          error = .tooFew least := by
        rintro ⟨least, isLeast, below, -⟩
        exact absurd (enough least isLeast) (Nat.not_le.mpr below)
      rw [or_iff_right notFewer, and_iff_right enough]
      cases more : arity.greatest.filter (· < count) with
      | some greatest =>
          obtain ⟨isGreatest, above⟩ := Option.filter_eq_some_iff.mp more
          have above : greatest < count := by simpa using above
          simp [isGreatest, above, eq_comm]
      | none =>
          have notMore : ∀ greatest, arity.greatest = some greatest → count ≤ greatest := by
            simpa [Option.filter_eq_none_iff] using more
          simp only [reduceCtorEq, false_iff, not_exists, not_and]
          intro greatest isGreatest above
          exact absurd (notMore greatest isGreatest) (Nat.not_le.mpr above)

namespace Primitive

/-! ## Zero divisors -/

/-- A primitive is to divide by its second argument, which is zero. -/
def DividesByZero (primitive : Primitive) (numbers : List Int) : Prop :=
  (∃ division, primitive = .divide division) ∧ numbers[1]? = some 0

theorem compute_eq_error_iff {primitive : Primitive} {numbers : List Int}
    (admitted : primitive.arity.Admits numbers.length) {error : ValueError} :
    primitive.compute numbers admitted = .error error ↔
      primitive.DividesByZero numbers ∧ error = .divisionByZero primitive.name := by
  cases primitive with
  | add => simp [compute, DividesByZero]
  | multiply => simp [compute, DividesByZero]
  | subtract =>
      cases numbers with
      | nil => simp [arity] at admitted
      | cons first rest => cases rest <;> simp [compute, DividesByZero]
  | absolute =>
      obtain ⟨number, rfl⟩ := List.length_eq_one_iff.mp (by simpa [arity] using admitted)
      simp [compute, DividesByZero]
  | divide division =>
      obtain ⟨dividend, divisor, rfl⟩ :=
        List.length_eq_two.mp (by simpa [arity] using admitted)
      by_cases nonzero : divisor ≠ 0
      · simp [compute, DividesByZero, nonzero]
      · simp [compute, DividesByZero, not_not.mp nonzero, name, eq_comm]

/-- A wrong number of arguments is reported before anything else. -/
theorem result_of_fault {primitive : Primitive} {values : List Value} {fault : ArityError}
    (faulty : primitive.arity.error? values.length = some fault) :
    primitive.result values = .error (.arity primitive.name fault.message) := by
  rw [← List.length_map Value.number] at faulty
  rw [result]
  split
  next other otherFaulty =>
    rw [faulty, Option.some.injEq] at otherFaulty
    rw [otherFaulty]
  next faultless =>
    rw [faulty] at faultless
    cases faultless

theorem result_of_admits {primitive : Primitive} {values : List Value}
    (admitted : primitive.arity.Admits (values.map Value.number).length) :
    primitive.result values =
      (primitive.compute (values.map Value.number) admitted).map Value.integer := by
  rw [result]
  split
  next fault faulty =>
    rw [Arity.error?_eq_none_iff.mpr admitted] at faulty
    cases faulty
  next => rfl

theorem result_eq_error_iff {primitive : Primitive} {values : List Value}
    {error : ValueError} :
    primitive.result values = .error error ↔
      (∃ fault, primitive.arity.error? values.length = some fault ∧
          error = .arity primitive.name fault.message) ∨
        primitive.arity.Admits values.length ∧
          primitive.DividesByZero (values.map Value.number) ∧
            error = .divisionByZero primitive.name := by
  rw [← Arity.error?_eq_none_iff]
  cases faulty : primitive.arity.error? values.length with
  | some fault => simp [result_of_fault faulty, eq_comm]
  | none =>
      have admitted : primitive.arity.Admits (values.map Value.number).length := by
        rwa [List.length_map, ← Arity.error?_eq_none_iff]
      rw [result_of_admits admitted, ← compute_eq_error_iff admitted]
      cases primitive.compute (values.map Value.number) admitted <;> simp [Except.map]

/-! ## Arguments by their position -/

/-- The result of a division, which a zero divisor leaves undefined. -/
def divided? (division : Division) (dividend divisor : Int) : Option Int :=
  if nonzero : divisor ≠ 0 then some (division.result dividend divisor nonzero) else none

/-- The numbers from a position on, which must not lie beyond the end. -/
def numbersFrom? (position : Nat) (numbers : List Int) : Option (List Int) :=
  if position ≤ numbers.length then some (numbers.drop position) else none

/-- What a primitive computes from numbers that are taken by their position.  This
comes to nothing if a position lies beyond the end or a divisor is zero. -/
def computeAt? : Primitive → List Int → Option (Except ValueError Int)
  | .add, numbers => some (.ok (numbers.foldl (· + ·) 0))
  | .multiply, numbers => some (.ok (numbers.foldl (· * ·) 1))
  | .subtract, numbers =>
      if numbers.length = 1 then do
        let number ← numbers[0]?
        some (.ok (-number))
      else do
        let first ← numbers[0]?
        let rest ← numbersFrom? 1 numbers
        some (.ok (rest.foldl (· - ·) first))
  | .absolute, numbers => do
      let number ← numbers[0]?
      some (.ok number.natAbs)
  | .divide division, numbers => do
      let divisor ← numbers[1]?
      if divisor = 0 then
        some (.error (.divisionByZero division.name))
      else do
        let dividend ← numbers[0]?
        let number ← divided? division dividend divisor
        some (.ok number)

/-- The result of a primitive whose arguments are taken by their position, after
their number was checked. -/
def resultAt? (primitive : Primitive) (values : List Value) :
    Option (Except ValueError Value) :=
  match primitive.arity.error? values.length with
  | some fault => some (.error (.arity primitive.name fault.message))
  | none =>
      (primitive.computeAt? (values.map Value.number)).map fun outcome =>
        outcome.map Value.integer

theorem computeAt?_eq_some {primitive : Primitive} {numbers : List Int}
    (admitted : primitive.arity.Admits numbers.length) :
    primitive.computeAt? numbers = some (primitive.compute numbers admitted) := by
  cases primitive with
  | add => rfl
  | multiply => rfl
  | subtract =>
      cases numbers with
      | nil => simp [arity] at admitted
      | cons first rest => cases rest <;> simp [computeAt?, compute, numbersFrom?]
  | absolute =>
      obtain ⟨number, rfl⟩ := List.length_eq_one_iff.mp (by simpa [arity] using admitted)
      rfl
  | divide division =>
      obtain ⟨dividend, divisor, rfl⟩ :=
        List.length_eq_two.mp (by simpa [arity] using admitted)
      by_cases nonzero : divisor ≠ 0
      · simp [computeAt?, compute, divided?, nonzero]
      · simp [computeAt?, compute, not_not.mp nonzero]

/-- No position beyond the end of the arguments is looked up, and nothing is
divided by zero. -/
theorem resultAt?_eq_some (primitive : Primitive) (values : List Value) :
    primitive.resultAt? values = some (primitive.result values) := by
  cases faulty : primitive.arity.error? values.length with
  | some fault => simp only [resultAt?, faulty, result_of_fault faulty]
  | none =>
      have admitted : primitive.arity.Admits (values.map Value.number).length := by
        rwa [List.length_map, ← Arity.error?_eq_none_iff]
      simp only [resultAt?, faulty, computeAt?_eq_some admitted, result_of_admits admitted,
        Option.map_some]

/-! ## Signatures -/

/-- How a primitive may be called: its name, the least and possibly a greatest
number of arguments, and whether it divides the first argument by the second. -/
structure Signature where
  name : String
  least : Nat
  greatest : Option Nat
  divides : Bool
  deriving DecidableEq

def signatures : List Signature :=
  [⟨"+", 0, none, false⟩, ⟨"*", 0, none, false⟩, ⟨"-", 1, none, false⟩,
    ⟨"abs", 1, some 1, false⟩, ⟨"quotient", 2, some 2, true⟩,
    ⟨"remainder", 2, some 2, true⟩, ⟨"modulo", 2, some 2, true⟩]

namespace Signature

def Takes (signature : Signature) (count : Nat) : Prop :=
  signature.least ≤ count ∧
    ∀ greatest, signature.greatest = some greatest → count ≤ greatest

def HasZeroDivisor (signature : Signature) (values : List Value) : Prop :=
  signature.divides = true ∧ values[1]? = some (.integer 0)

end Signature

def signature (primitive : Primitive) : Signature :=
  ⟨primitive.name, primitive.arity.least.getD 0, primitive.arity.greatest,
    primitive matches .divide _⟩

theorem signature_mem_signatures (primitive : Primitive) :
    primitive.signature ∈ signatures := by
  cases primitive with
  | divide division => cases division <;> decide
  | _ => decide

theorem least_le_greatest {primitive : Primitive} {greatest : Nat}
    (isGreatest : primitive.signature.greatest = some greatest) :
    primitive.signature.least ≤ greatest := by
  have ordered : ∀ signature ∈ signatures, ∀ greatest ∈ signature.greatest,
      signature.least ≤ greatest := by
    decide
  exact ordered _ primitive.signature_mem_signatures greatest isGreatest

theorem lt_least_iff {primitive : Primitive} {count : Nat} :
    count < primitive.signature.least ↔
      ∃ least, primitive.arity.least = some least ∧ count < least := by
  cases isLeast : primitive.arity.least <;> simp [signature, isLeast]

theorem least_le_iff {primitive : Primitive} {count : Nat} :
    primitive.signature.least ≤ count ↔
      ∀ least, primitive.arity.least = some least → least ≤ count := by
  rw [← Nat.not_lt, lt_least_iff]
  simp

theorem takes_signature_iff {primitive : Primitive} {count : Nat} :
    primitive.signature.Takes count ↔ primitive.arity.Admits count := by
  rw [Signature.Takes, least_le_iff]
  rfl

theorem hasZeroDivisor_signature_iff {primitive : Primitive} {values : List Value} :
    primitive.signature.HasZeroDivisor values ↔
      primitive.DividesByZero (values.map Value.number) := by
  have isZero : values[1]? = some (.integer 0) ↔
      (values.map Value.number)[1]? = some 0 := by
    rw [List.getElem?_map]
    cases values[1]? with
    | none => simp
    | some value => cases value; simp [Value.number]
  rw [Signature.HasZeroDivisor, DividesByZero, isZero]
  cases primitive <;> simp [signature]

/-! ## Outcomes -/

theorem result_eq_arity_iff {primitive : Primitive} {values : List Value}
    {found message : String} :
    primitive.result values = .error (.arity found message) ↔
      found = primitive.name ∧
        ((values.length < primitive.signature.least ∧
            message = "Too few values, expecting at least " ++
              Decimal.ofNat primitive.signature.least ++ ".") ∨
          ∃ greatest, primitive.signature.greatest = some greatest ∧
            greatest < values.length ∧
            message = "Too many values, expecting at most " ++
              Decimal.ofNat greatest ++ ".") := by
  rw [result_eq_error_iff]
  constructor
  · rintro (⟨fault, faulty, same⟩ | ⟨-, -, same⟩)
    · cases same
      refine ⟨rfl, ?_⟩
      rcases Arity.error?_eq_some_iff.mp faulty with
        ⟨least, isLeast, below, rfl⟩ | ⟨-, greatest, isGreatest, above, rfl⟩
      · have leastEq : primitive.signature.least = least := by simp [signature, isLeast]
        exact Or.inl ⟨by rwa [leastEq], by rw [leastEq]; rfl⟩
      · exact Or.inr ⟨greatest, isGreatest, above, rfl⟩
    · cases same
  · rintro ⟨rfl, ⟨below, rfl⟩ | ⟨greatest, isGreatest, above, rfl⟩⟩
    · obtain ⟨least, isLeast, belowLeast⟩ := lt_least_iff.mp below
      have leastEq : primitive.signature.least = least := by simp [signature, isLeast]
      refine Or.inl ⟨.tooFew least, ?_, by rw [leastEq]; rfl⟩
      exact Arity.error?_eq_some_iff.mpr (Or.inl ⟨least, isLeast, belowLeast, rfl⟩)
    · -- More arguments than the greatest number are no fewer than the least.
      have enough : primitive.signature.least ≤ values.length :=
        Nat.le_trans (least_le_greatest isGreatest) (Nat.le_of_lt above)
      refine Or.inl ⟨.tooMany greatest, ?_, rfl⟩
      exact Arity.error?_eq_some_iff.mpr
        (Or.inr ⟨least_le_iff.mp enough, greatest, isGreatest, above, rfl⟩)

theorem result_eq_divisionByZero_iff {primitive : Primitive} {values : List Value}
    {found : String} :
    primitive.result values = .error (.divisionByZero found) ↔
      found = primitive.name ∧ primitive.signature.Takes values.length ∧
        primitive.signature.HasZeroDivisor values := by
  rw [result_eq_error_iff, takes_signature_iff, hasZeroDivisor_signature_iff]
  simp only [reduceCtorEq, and_false, exists_false, false_or, ValueError.divisionByZero.injEq]
  tauto

theorem exists_result_eq_ok_iff {primitive : Primitive} {values : List Value} :
    (∃ value, primitive.result values = .ok value) ↔
      primitive.signature.Takes values.length ∧
        ¬ primitive.signature.HasZeroDivisor values := by
  rw [takes_signature_iff, hasZeroDivisor_signature_iff, ← Arity.error?_eq_none_iff]
  constructor
  · rintro ⟨value, succeeded⟩
    have noError : ∀ error, primitive.result values ≠ .error error := by simp [succeeded]
    have faultless : primitive.arity.error? values.length = none := by
      rw [Option.eq_none_iff_forall_ne_some]
      intro fault faulty
      exact noError _ (result_of_fault faulty)
    refine ⟨faultless, fun zeroDivisor => ?_⟩
    exact noError _ (result_eq_error_iff.mpr
      (Or.inr ⟨Arity.error?_eq_none_iff.mp faultless, zeroDivisor, rfl⟩))
  · rintro ⟨faultless, noZeroDivisor⟩
    cases outcome : primitive.result values with
    | ok value => exact ⟨value, rfl⟩
    | error error =>
        rcases result_eq_error_iff.mp outcome with ⟨fault, faulty, -⟩ | ⟨-, zeroDivisor, -⟩
        · rw [faultless] at faulty
          cases faulty
        · exact absurd zeroDivisor noZeroDivisor

theorem lookup_eq_some_iff {name : String} {primitive : Primitive} :
    lookup name = some primitive ↔ primitive.name = name := by
  constructor
  · intro found
    simpa using List.find?_some found
  · rintro rfl
    cases primitive with
    | divide division => cases division <;> decide
    | _ => decide

theorem isSome_lookup_iff {name : String} :
    (lookup name).isSome = true ↔
      name ∈ ["+", "*", "-", "abs", "quotient", "remainder", "modulo"] := by
  have names : ["+", "*", "-", "abs", "quotient", "remainder", "modulo"] =
      all.map Primitive.name := rfl
  rw [names, lookup, List.find?_isSome, List.mem_map]
  simp only [beq_iff_eq]

/-- Seven names have a primitive.  A primitive reports a wrong number of arguments
under its name exactly if the number is out of the range of its signature, with
the least number if there are fewer and the greatest if there are more; it
reports a division by zero under its name exactly if the number is right and it
is to divide by a second argument that is zero; and it has a result in all other
cases.  On no list of arguments does it look up a position beyond the end or
divide by zero. -/
theorem outcome_classification (name : String) (values : List Value) :
    ((lookup name).isSome = true ↔
      name ∈ ["+", "*", "-", "abs", "quotient", "remainder", "modulo"]) ∧
    ∀ primitive, lookup name = some primitive →
      ∃ signature ∈ signatures, signature.name = name ∧
        (∀ found message,
          (primitive.apply values).value = .error (.arity found message) ↔
            found = name ∧
              ((values.length < signature.least ∧
                  message = "Too few values, expecting at least " ++
                    Decimal.ofNat signature.least ++ ".") ∨
                ∃ greatest, signature.greatest = some greatest ∧
                  greatest < values.length ∧
                  message = "Too many values, expecting at most " ++
                    Decimal.ofNat greatest ++ ".")) ∧
        (∀ found,
          (primitive.apply values).value = .error (.divisionByZero found) ↔
            found = name ∧ signature.Takes values.length ∧
              signature.HasZeroDivisor values) ∧
        ((∃ value, (primitive.apply values).value = .ok value) ↔
          signature.Takes values.length ∧ ¬ signature.HasZeroDivisor values) ∧
        primitive.resultAt? values = some (primitive.apply values).value := by
  refine ⟨isSome_lookup_iff, fun primitive found => ?_⟩
  obtain rfl := lookup_eq_some_iff.mp found
  exact ⟨primitive.signature, primitive.signature_mem_signatures, rfl,
    fun found message => result_eq_arity_iff, fun found => result_eq_divisionByZero_iff,
    exists_result_eq_ok_iff, primitive.resultAt?_eq_some values⟩

/-- A third argument is reported before the zero divisor in front of it. -/
theorem outcome_classification_quotient :
    lookup "quotient" = some (.divide .quotient) ∧
      ((Primitive.divide .quotient).apply
          [.integer 1, .integer 0, .integer 3]).value =
        .error (.arity "quotient" "Too many values, expecting at most 2.") ∧
      ((Primitive.divide .quotient).apply [.integer 1, .integer 0]).value =
        .error (.divisionByZero "quotient") := by
  have found : lookup "quotient" = some (.divide .quotient) := by decide
  have pinned : ∀ signature ∈ signatures, signature.name = "quotient" →
      signature = ⟨"quotient", 2, some 2, true⟩ := by
    decide
  refine ⟨found, ?_, ?_⟩
  · obtain ⟨signature, member, named, arity_iff, -⟩ :=
      (outcome_classification "quotient" [.integer 1, .integer 0, .integer 3]).2 _ found
    obtain rfl := pinned signature member named
    exact (arity_iff _ _).mpr ⟨rfl, Or.inr ⟨2, rfl, by decide, by decide⟩⟩
  · obtain ⟨signature, member, named, -, divisionByZero_iff, -⟩ :=
      (outcome_classification "quotient" [.integer 1, .integer 0]).2 _ found
    obtain rfl := pinned signature member named
    exact (divisionByZero_iff _).mpr
      ⟨rfl, ⟨by decide, fun greatest isGreatest => by cases isGreatest; decide⟩, rfl, rfl⟩

end Primitive

end ExactInteger
