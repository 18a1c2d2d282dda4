import ExactInteger.Native
import ExactInteger.Proofs.DecimalNumeral

/-!
# Words and integers

The words of a format correspond one to one to the integers that it holds, signed or not
and whatever its width.  Narrowing looks at the integer alone: it gives the one 64-bit
signed word that stands for it, and refuses exactly the integers that no such word stands
for.
-/

namespace ExactInteger

namespace NativeFormat

/-! ## Widening -/

variable (format : NativeFormat) (word : BitVec format.bits)

theorem size_eq : (format.size : Int) = 2 ^ format.bits := by
  rw [size, Nat.pow_eq, Int.natCast_pow]
  rfl

/-- A word stands for an integer that its format holds. -/
theorem holds_widen : format.Holds (format.widen word) := by
  rw [Holds, widen, size_eq]
  split
  next =>
    have lower := BitVec.le_two_mul_toInt (x := word)
    have upper := BitVec.two_mul_toInt_lt (x := word)
    omega
  next =>
    have upper : (word.toNat : Int) < 2 ^ format.bits := by exact_mod_cast word.isLt
    exact ⟨Int.natCast_nonneg _, upper⟩

theorem wrap_widen : format.wrap (format.widen word) = word := by
  rw [wrap, widen]
  split
  next => exact BitVec.ofInt_toInt
  next => rw [BitVec.ofInt_natCast, BitVec.ofNat_toNat, BitVec.setWidth_eq]

end NativeFormat

/-! ## Narrowing -/

variable {number : Int} {word : Int64}

theorem narrow_of_fits (fits : -2 ^ 63 ≤ number ∧ number ≤ 2 ^ 63 - 1) :
    narrow number = .ok (Int64.ofInt number) := by
  rw [narrow, Int64.toInt_minValue, Int64.toInt_maxValue, if_pos fits]

theorem narrow_of_not_fits (fitsNot : ¬(-2 ^ 63 ≤ number ∧ number ≤ 2 ^ 63 - 1)) :
    narrow number = .error (.outOfRange number) := by
  rw [narrow, Int64.toInt_minValue, Int64.toInt_maxValue, if_neg fitsNot]

/-- Narrowing gives the word that stands for the integer. -/
theorem narrow_eq_ok_iff : narrow number = .ok word ↔ word.toInt = number := by
  constructor
  · intro narrowed
    by_cases fits : -2 ^ 63 ≤ number ∧ number ≤ 2 ^ 63 - 1
    · rw [narrow_of_fits fits] at narrowed
      cases narrowed
      exact Int64.toInt_ofInt_of_le fits.1 (by omega)
    · rw [narrow_of_not_fits fits] at narrowed
      cases narrowed
  · rintro rfl
    have lower := word.le_toInt
    have upper := word.toInt_lt
    rw [narrow_of_fits ⟨lower, by omega⟩, Int64.ofInt_toInt]

theorem exists_narrow_iff :
    (∃ word, narrow number = .ok word) ↔ -2 ^ 63 ≤ number ∧ number ≤ 2 ^ 63 - 1 := by
  constructor
  · rintro ⟨word, narrowed⟩
    obtain rfl := narrow_eq_ok_iff.mp narrowed
    have lower := word.le_toInt
    have upper := word.toInt_lt
    exact ⟨lower, by omega⟩
  · intro fits
    exact ⟨_, narrow_of_fits fits⟩

theorem narrow_eq_error_iff :
    narrow number = .error (.outOfRange number) ↔
      ¬(-2 ^ 63 ≤ number ∧ number ≤ 2 ^ 63 - 1) := by
  constructor
  · intro refused fits
    rw [narrow_of_fits fits] at refused
    cases refused
  · exact narrow_of_not_fits

/-- Every integer that a 64-bit signed word stands for, and no other, is narrowed, to a
word that widens to the integer again.  Any other integer is refused by its decimal text.
The words of every format stand one to one for the integers that it holds; widened, they
are printed as the decimal texts of these, and are narrowed to them if they fit. -/
theorem narrow_inverts_widen :
    (∀ number : Int,
      ((∃ word, narrow number = .ok word) ↔ -2 ^ 63 ≤ number ∧ number ≤ 2 ^ 63 - 1) ∧
      (∀ word, narrow number = .ok word →
        NativeFormat.widen ⟨true, 64⟩ word.toBitVec = number) ∧
      (narrow number = .error (.outOfRange number) ↔
        ¬(-2 ^ 63 ≤ number ∧ number ≤ 2 ^ 63 - 1)) ∧
      ∃ text, Representation.lines number = [text] ∧
        (ValueError.outOfRange number).message = text ++ " does not fit in a native integer") ∧
    (∀ (format : NativeFormat) (word : BitVec format.bits),
      format.Holds (format.widen word) ∧ format.wrap (format.widen word) = word) ∧
    ∀ (format : NativeFormat) (number : Int), format.Holds number →
      (∃ text, Representation.lines (format.widen (format.wrap number)) = [text] ∧
        Decimal.IsCanonical text.toList ∧ Literal.Denotes 10 text.toList number) ∧
      ((∃ word, narrow (format.widen (format.wrap number)) = .ok word ∧ word.toInt = number) ↔
        -2 ^ 63 ≤ number ∧ number ≤ 2 ^ 63 - 1) := by
  refine ⟨fun number => ?_, fun format word => ?_, fun format number holds => ?_⟩
  · exact ⟨exists_narrow_iff, fun word => narrow_eq_ok_iff.mp, narrow_eq_error_iff,
      Decimal.ofInt number, rfl, rfl⟩
  · exact ⟨format.holds_widen word, format.wrap_widen word⟩
  · rw [NativeFormat.widen_wrap holds]
    refine ⟨⟨Decimal.ofInt number, rfl, ?_, ?_⟩, ?_⟩
    · rw [Decimal.toList_ofInt]
      exact Decimal.isCanonical_characters number
    · rw [Decimal.toList_ofInt]
      exact Decimal.denotes_characters number
    · simp only [narrow_eq_ok_iff, and_self, ← exists_narrow_iff]

/-- The least signed number of 64 bits is narrowed from a wider format.  The unsigned number
with the same magnitude is not, although it has a word of 64 bits. -/
theorem narrow_inverts_widen_boundary :
    ((⟨true, 128⟩ : NativeFormat).Holds (-2 ^ 63) ∧
      ∃ word, narrow (NativeFormat.widen ⟨true, 128⟩ (NativeFormat.wrap _ (-2 ^ 63))) = .ok word ∧
        word.toInt = -2 ^ 63) ∧
    (⟨false, 64⟩ : NativeFormat).Holds (2 ^ 63) ∧
      ¬ ∃ word, narrow (NativeFormat.widen ⟨false, 64⟩ (NativeFormat.wrap _ (2 ^ 63))) = .ok word ∧
        word.toInt = 2 ^ 63 := by
  obtain ⟨-, -, narrowed⟩ := narrow_inverts_widen
  have least : (⟨true, 128⟩ : NativeFormat).Holds (-2 ^ 63) := by
    simp [NativeFormat.Holds, NativeFormat.size]
  have unsigned : (⟨false, 64⟩ : NativeFormat).Holds (2 ^ 63) := by
    simp [NativeFormat.Holds, NativeFormat.size]
  refine ⟨⟨least, (narrowed _ _ least).2.mpr (by decide)⟩, unsigned, ?_⟩
  rw [(narrowed _ _ unsigned).2]
  decide

end ExactInteger
