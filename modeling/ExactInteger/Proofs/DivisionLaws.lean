import ExactInteger.Proofs.PrimitiveValues
import Mathlib.Tactic.Ring

/-!
# Laws of division

A remainder is smaller than the divisor, and has the sign of a leading number
unless it is zero.  The leading number is the dividend for one division and the
divisor for the other.  Two remainders with the same leading number that differ by
a multiple of the divisor are equal, so each division is determined by its laws,
and one remainder is the other or lies one divisor above it.
-/

namespace ExactInteger

namespace Primitive

/-- A number can be the remainder of a division by a divisor, with the sign of a
leading number. -/
structure IsRemainder (divisor leader remainder : Int) : Prop where
  small : remainder.natAbs < divisor.natAbs
  signed : remainder = 0 ∨ remainder.sign = leader.sign

/-- A dividend is put together again from a quotient and a remainder. -/
def Recomposes (dividend divisor quotient remainder : Int) : Prop :=
  ∃ product, Gives "*" [quotient, divisor] product ∧
    Gives "+" [product, remainder] dividend

variable {dividend divisor leader quotient remainder other : Int}

theorem recomposes_iff :
    Recomposes dividend divisor quotient remainder ↔
      quotient * divisor + remainder = dividend := by
  simp [Recomposes, gives_multiply_iff, gives_add_iff]

/-! ## Remainders -/

theorem IsRemainder.nonneg (isRemainder : IsRemainder divisor leader remainder)
    (leading : 0 ≤ leader) : 0 ≤ remainder := by
  rcases isRemainder.signed with zero | sameSign
  · rw [zero]
  · rwa [← Int.sign_nonneg_iff, sameSign, Int.sign_nonneg_iff]

theorem IsRemainder.nonpos (isRemainder : IsRemainder divisor leader remainder)
    (leading : leader ≤ 0) : remainder ≤ 0 := by
  rcases isRemainder.signed with zero | sameSign
  · rw [zero]
  · rwa [← Int.sign_nonpos_iff, sameSign, Int.sign_nonpos_iff]

/-- Remainders of the same division that differ by a multiple of the divisor are
equal. -/
theorem IsRemainder.unique (isRemainder : IsRemainder divisor leader remainder)
    (isOther : IsRemainder divisor leader other)
    (congruent : divisor ∣ remainder - other) : remainder = other := by
  have small := isRemainder.small
  have otherSmall := isOther.small
  -- Both stand on the same side of zero, so they are less than a divisor apart.
  have near : (remainder - other).natAbs < divisor.natAbs := by
    rcases Int.le_total 0 leader with leading | leading
    · have nonneg := isRemainder.nonneg leading
      have otherNonneg := isOther.nonneg leading
      omega
    · have nonpos := isRemainder.nonpos leading
      have otherNonpos := isOther.nonpos leading
      omega
  exact Int.sub_eq_zero.mp (Int.eq_zero_of_dvd_of_natAbs_lt_natAbs congruent near)

theorem isRemainder_of_nonneg (nonneg : 0 ≤ remainder) (leading : 0 < leader)
    (small : remainder.natAbs < divisor.natAbs) : IsRemainder divisor leader remainder := by
  refine ⟨small, ?_⟩
  rcases Int.lt_or_eq_of_le nonneg with positive | zero
  · exact Or.inr ((Int.sign_eq_one_of_pos positive).trans
      (Int.sign_eq_one_of_pos leading).symm)
  · exact Or.inl zero.symm

theorem isRemainder_of_nonpos (nonpos : remainder ≤ 0) (leading : leader < 0)
    (small : remainder.natAbs < divisor.natAbs) : IsRemainder divisor leader remainder := by
  refine ⟨small, ?_⟩
  rcases Int.lt_or_eq_of_le nonpos with negative | zero
  · exact Or.inr ((Int.sign_eq_neg_one_of_neg negative).trans
      (Int.sign_eq_neg_one_of_neg leading).symm)
  · exact Or.inl zero

/-- The lower part of a number is a remainder also if both have the same sign put
before them. -/
theorem isRemainder_mul_of_lt {factor : Int} {base low total : Nat}
    (unit : factor.natAbs = 1) (small : low < base) (part : low ≤ total) :
    IsRemainder base (factor * total) (factor * low) := by
  constructor
  · rw [Int.natAbs_mul, unit, one_mul, Int.natAbs_natCast, Int.natAbs_natCast]
    exact small
  · rcases Nat.eq_zero_or_pos low with zero | positive
    · exact Or.inl (by simp [zero])
    · have lowSign : (low : Int).sign = 1 := Int.sign_eq_one_of_pos (by omega)
      have totalSign : (total : Int).sign = 1 := Int.sign_eq_one_of_pos (by omega)
      rw [Int.sign_mul, Int.sign_mul, lowSign, totalSign]
      exact Or.inr rfl

/-! ## The three divisions -/

theorem isRemainder_tmod (nonzero : divisor ≠ 0) (dividend : Int) :
    IsRemainder divisor dividend (dividend.tmod divisor) := by
  have small : (dividend.tmod divisor).natAbs < divisor.natAbs := by
    rw [Int.natAbs_tmod]
    exact Nat.mod_lt _ (Int.natAbs_pos.mpr nonzero)
  refine ⟨small, ?_⟩
  by_cases divides : divisor ∣ dividend
  · exact Or.inl (Int.tmod_eq_zero_of_dvd divides)
  · rw [Int.sign_tmod, if_neg divides]
    exact Or.inr rfl

theorem isRemainder_fmod (nonzero : divisor ≠ 0) (dividend : Int) :
    IsRemainder divisor divisor (dividend.fmod divisor) := by
  rcases Int.lt_or_gt_of_ne nonzero with negative | positive
  · obtain ⟨-, above, nonpos⟩ := (Int.fdiv_fmod_unique' negative).mp
      ⟨(rfl : dividend.fdiv divisor = _), (rfl : dividend.fmod divisor = _)⟩
    exact isRemainder_of_nonpos nonpos negative (by omega)
  · obtain ⟨-, nonneg, below⟩ := (Int.fdiv_fmod_unique positive).mp
      ⟨(rfl : dividend.fdiv divisor = _), (rfl : dividend.fmod divisor = _)⟩
    exact isRemainder_of_nonneg nonneg positive (by omega)

theorem dvd_sub_fmod (dividend divisor : Int) :
    divisor ∣ dividend - dividend.fmod divisor := by
  refine ⟨dividend.fdiv divisor, ?_⟩
  have recomposed := Int.fmod_add_mul_fdiv dividend divisor
  omega

/-- A quotient and a remainder are determined by their laws. -/
theorem quotient_remainder_unique {otherQuotient : Int} (nonzero : divisor ≠ 0)
    (recomposed : quotient * divisor + remainder = dividend)
    (isRemainder : IsRemainder divisor dividend remainder)
    (otherRecomposed : otherQuotient * divisor + other = dividend)
    (isOther : IsRemainder divisor dividend other) :
    quotient = otherQuotient ∧ remainder = other := by
  have congruent : divisor ∣ remainder - other := by
    refine ⟨otherQuotient - quotient, ?_⟩
    rw [mul_sub, mul_comm divisor, mul_comm divisor]
    omega
  have sameRemainder := isRemainder.unique isOther congruent
  refine ⟨?_, sameRemainder⟩
  apply Int.eq_of_mul_eq_mul_right nonzero
  omega

/-- What satisfies the laws of a quotient and a remainder is given by them. -/
theorem gives_of_recomposed (nonzero : divisor ≠ 0)
    (recomposed : quotient * divisor + remainder = dividend)
    (isRemainder : IsRemainder divisor dividend remainder) :
    Gives "quotient" [dividend, divisor] quotient ∧
      Gives "remainder" [dividend, divisor] remainder := by
  obtain ⟨sameQuotient, sameRemainder⟩ := quotient_remainder_unique nonzero
    (Int.tdiv_mul_add_tmod dividend divisor) (isRemainder_tmod nonzero dividend)
    recomposed isRemainder
  exact ⟨(gives_divide_iff .quotient nonzero).mpr sameQuotient,
    (gives_divide_iff .remainder nonzero).mpr sameRemainder⟩

/-! ## One remainder from the other -/

theorem dvd_fmod_sub_tmod (dividend divisor : Int) :
    divisor ∣ dividend.fmod divisor - dividend.tmod divisor := by
  refine ⟨dividend.tdiv divisor - dividend.fdiv divisor, ?_⟩
  have floored := Int.fmod_add_mul_fdiv dividend divisor
  have truncated := Int.tmod_add_mul_tdiv dividend divisor
  rw [mul_sub]
  omega

theorem fmod_eq_tmod_of_sameSign (nonzero : divisor ≠ 0)
    (agree : dividend.tmod divisor = 0 ∨ dividend.sign = divisor.sign) :
    dividend.fmod divisor = dividend.tmod divisor := by
  have isRemainder := isRemainder_tmod nonzero dividend
  have follows : IsRemainder divisor divisor (dividend.tmod divisor) := by
    refine ⟨isRemainder.small, ?_⟩
    rcases agree with zero | sameSign
    · exact Or.inl zero
    · rw [← sameSign]
      exact isRemainder.signed
  exact (isRemainder_fmod nonzero dividend).unique follows
    (dvd_fmod_sub_tmod dividend divisor)

theorem fmod_eq_tmod_add_of_not_sameSign (nonzero : divisor ≠ 0)
    (differ : ¬ (dividend.tmod divisor = 0 ∨ dividend.sign = divisor.sign)) :
    dividend.fmod divisor = dividend.tmod divisor + divisor := by
  rw [not_or] at differ
  have isRemainder := isRemainder_tmod nonzero dividend
  have small := isRemainder.small
  -- The remainder stands on the other side of zero, less than a divisor away.
  have follows : IsRemainder divisor divisor (dividend.tmod divisor + divisor) := by
    rcases Int.lt_or_gt_of_ne nonzero with negative | positive
    · have leading : 0 ≤ dividend := by
        by_contra below
        exact differ.2 ((Int.sign_eq_neg_one_of_neg (not_le.mp below)).trans
          (Int.sign_eq_neg_one_of_neg negative).symm)
      have nonneg := isRemainder.nonneg leading
      exact isRemainder_of_nonpos (by omega) negative (by omega)
    · have leading : dividend ≤ 0 := by
        by_contra above
        exact differ.2 ((Int.sign_eq_one_of_pos (not_le.mp above)).trans
          (Int.sign_eq_one_of_pos positive).symm)
      have nonpos := isRemainder.nonpos leading
      exact isRemainder_of_nonneg (by omega) positive (by omega)
  have congruent := Int.dvd_sub (dvd_fmod_sub_tmod dividend divisor) (dvd_refl divisor)
  rw [sub_sub] at congruent
  exact (isRemainder_fmod nonzero dividend).unique follows congruent

/-- The laws of division.  By a divisor that is not zero, a dividend has a quotient,
a remainder and a modulo.  The dividend is the product of the quotient and the
divisor, added to the remainder, which has the sign of the dividend or is zero.  The
modulo has the sign of the divisor or is zero, and differs from the dividend by a
multiple of the divisor.  Both are smaller than the divisor.  They are equal if the
remainder is zero or the signs of dividend and divisor are the same, and otherwise
the modulo is the remainder plus the divisor.  There are no other numbers of which
this holds. -/
theorem division_laws (dividend : Int) (nonzero : divisor ≠ 0) :
    ∃ quotient remainder modulo : Int,
      Gives "quotient" [dividend, divisor] quotient ∧
      Gives "remainder" [dividend, divisor] remainder ∧
      Gives "modulo" [dividend, divisor] modulo ∧
      Recomposes dividend divisor quotient remainder ∧
      IsRemainder divisor dividend remainder ∧
      IsRemainder divisor divisor modulo ∧
      divisor ∣ dividend - modulo ∧
      (remainder = 0 ∨ dividend.sign = divisor.sign → modulo = remainder) ∧
      (¬ (remainder = 0 ∨ dividend.sign = divisor.sign) →
        modulo = remainder + divisor) ∧
      (∀ otherQuotient other, Recomposes dividend divisor otherQuotient other →
        IsRemainder divisor dividend other →
          otherQuotient = quotient ∧ other = remainder) ∧
      ∀ other, IsRemainder divisor divisor other → divisor ∣ dividend - other →
        other = modulo := by
  have recomposed := Int.tdiv_mul_add_tmod dividend divisor
  have isRemainder := isRemainder_tmod nonzero dividend
  obtain ⟨givesQuotient, givesRemainder⟩ :=
    gives_of_recomposed nonzero recomposed isRemainder
  refine ⟨_, _, dividend.fmod divisor, givesQuotient, givesRemainder,
    (gives_divide_iff .modulo nonzero).mpr rfl, recomposes_iff.mpr recomposed, isRemainder,
    isRemainder_fmod nonzero dividend, dvd_sub_fmod dividend divisor,
    fmod_eq_tmod_of_sameSign nonzero, fmod_eq_tmod_add_of_not_sameSign nonzero,
    fun otherQuotient other otherRecomposes isOther => ?_,
    fun other isOther congruent => ?_⟩
  · exact quotient_remainder_unique nonzero (recomposes_iff.mp otherRecomposes) isOther
      recomposed isRemainder
  · have apart := Int.dvd_sub (dvd_sub_fmod dividend divisor) congruent
    rw [sub_sub_sub_cancel_left] at apart
    exact isOther.unique (isRemainder_fmod nonzero dividend) apart

/-- Of a dividend and a divisor with different signs, the remainder is below zero and
the modulo above it. -/
theorem division_laws_mixed :
    Gives "quotient" [-7, 3] (-2) ∧ Gives "remainder" [-7, 3] (-1) ∧
      Gives "modulo" [-7, 3] 2 := by
  obtain ⟨quotient, remainder, modulo, givesQuotient, givesRemainder, givesModulo,
    -, -, -, -, -, differ, unique, -⟩ := division_laws (-7) (by decide : (3 : Int) ≠ 0)
  obtain ⟨rfl, rfl⟩ :=
    unique (-2) (-1) (recomposes_iff.mpr (by decide)) ⟨by decide, by decide⟩
  obtain rfl := differ (by decide)
  exact ⟨givesQuotient, givesRemainder, givesModulo⟩

end Primitive

end ExactInteger
