import ExactInteger.Proofs.RadixNumeral
import Mathlib.Logic.Equiv.Defs

/-!
# Normal forms of literals

The normal form of a literal has no plus sign, no capital letters and no zeros that
could be left out, and zero has no sign.  It is the spelling of the integer that the
literal denotes.  So two literals of a radix denote the same integer exactly if their
normal forms are the same, and normal forms correspond one to one to the integers.
-/

namespace ExactInteger

namespace Digit

private theorem toLower_alphabets_fin : ∀ value : Fin 36,
    smallAlphabet[value.val]?.map Char.toLower = some (ofValue value.val) ∧
      capitalAlphabet[value.val]?.map Char.toLower = some (ofValue value.val) := by
  decide

variable {radix value : Nat} {character : Char}

/-- Digits of the same value differ at most in the case of their letter. -/
theorem Counts.toLower_eq (counts : Counts radix character value) :
    character.toLower = ofValue value := by
  obtain ⟨place, -⟩ := counts
  have bound : value < 36 := by
    rcases place with small | capital
    · exact (List.getElem?_eq_some_iff.mp small).1
    · exact (List.getElem?_eq_some_iff.mp capital).1
  obtain ⟨lowerSmall, lowerCapital⟩ := toLower_alphabets_fin ⟨value, bound⟩
  rcases place with small | capital
  · rw [small, Option.map_some, Option.some.injEq] at lowerSmall
    exact lowerSmall
  · rw [capital, Option.map_some, Option.some.injEq] at lowerCapital
    exact lowerCapital

end Digit

namespace Literal

/-! ## Normal forms -/

def withoutPlus : List Char → List Char
  | '+' :: rest => rest
  | text => text

/-- Digits without the zeros in front of them.  The last digit stays. -/
def withoutLeadingZeros : List Char → List Char
  | '0' :: second :: rest => withoutLeadingZeros (second :: rest)
  | digits => digits

/-- A literal without a plus sign, capital letters and leading zeros.  The minus sign
is left out as well if only a zero stays. -/
def normalize (text : List Char) : List Char :=
  match (withoutPlus text).map Char.toLower with
  | '-' :: digits =>
      if withoutLeadingZeros digits = ['0'] then ['0'] else '-' :: withoutLeadingZeros digits
  | digits => withoutLeadingZeros digits

def normalForm (text : String) : String :=
  String.ofList (normalize text.toList)

variable {radix : Nat}

theorem withoutLeadingZeros_of_ne {leading : Char} (nonzero : leading ≠ '0')
    (rest : List Char) : withoutLeadingZeros (leading :: rest) = leading :: rest := by
  rw [withoutLeadingZeros]
  intro second others same
  exact absurd (List.cons.inj same).1 nonzero

/-! ## The normal form of a literal -/

/-- Without leading zeros, digits are the numeral of their positional value. -/
theorem withoutLeadingZeros_map_ofValue (isRadix : IsRadix radix) {values : List Nat}
    (nonempty : values ≠ []) (below : ∀ value ∈ values, value < radix) :
    withoutLeadingZeros (values.map Digit.ofValue) =
      numeral radix (positional radix values) := by
  induction values with
  | nil => exact absurd rfl nonempty
  | cons leading values ih =>
      obtain ⟨first, rest⟩ := List.forall_mem_cons.mp below
      by_cases zero : leading = 0
      · subst zero
        cases values with
        | nil =>
            rw [positional_singleton, (numeral_eq_zero_iff isRadix).mpr rfl, List.map_singleton,
              Digit.ofValue_zero, withoutLeadingZeros]
            intro second others same
            cases same
        | cons second values =>
            have stays := ih (by simp) rest
            rw [positional_cons, Nat.zero_mul, Nat.zero_add, ← stays, List.map_cons,
              Digit.ofValue_zero, List.map_cons, withoutLeadingZeros]
      · have notZero := Digit.ofValue_ne_zero isRadix.2 first zero
        rw [numeral_positional_cons isRadix zero below, List.map_cons,
          withoutLeadingZeros_of_ne notZero]

theorem map_toLower_of_counted {digits : List Char} {values : List Nat}
    (counted : List.Forall₂ (Digit.Counts radix) digits values) :
    digits.map Char.toLower = values.map Digit.ofValue := by
  induction counted with
  | nil => rfl
  | cons counts counted ih => rw [List.map_cons, List.map_cons, counts.toLower_eq, ih]

/-- Small letters without leading zeros are the numeral of the value that digits have. -/
theorem withoutLeadingZeros_map_toLower (isRadix : IsRadix radix) {digits : List Char}
    {values : List Nat} (nonempty : digits ≠ [])
    (counted : List.Forall₂ (Digit.Counts radix) digits values) :
    withoutLeadingZeros (digits.map Char.toLower) =
      numeral radix (positional radix values) := by
  have someValue : values ≠ [] := by
    rintro rfl
    exact nonempty (List.forall₂_nil_right_iff.mp counted)
  rw [map_toLower_of_counted counted]
  exact withoutLeadingZeros_map_ofValue isRadix someValue (below_of_counted counted)

theorem withoutPlus_of_counted {digits : List Char} {values : List Nat}
    (counted : List.Forall₂ (Digit.Counts radix) digits values) :
    withoutPlus digits = digits := by
  cases counted with
  | nil => rfl
  | cons counts counted =>
      rw [withoutPlus]
      intro rest same
      exact counts.ne_of_value?_eq_none rfl (List.cons.inj same).1

theorem normalize_of_counted (isRadix : IsRadix radix) {digits : List Char}
    {values : List Nat} (counted : List.Forall₂ (Digit.Counts radix) digits values) :
    normalize digits = withoutLeadingZeros (digits.map Char.toLower) := by
  rw [normalize, withoutPlus_of_counted counted, map_toLower_of_counted counted]
  split
  next rest starts =>
    -- No digit is a minus sign, also not among the small letters.
    have isMinus : '-' ∈ values.map Digit.ofValue := by simp [starts]
    obtain ⟨value, member, same⟩ := List.mem_map.mp isMinus
    exact absurd same (Digit.ofValue_ne_minus isRadix.2 (below_of_counted counted value member))
  next => rfl

/-- The normal form of a literal is the spelling of the integer that it denotes. -/
theorem normalize_of_denotes (isRadix : IsRadix radix) {text : List Char} {number : Int}
    (denotes : Denotes radix text number) : normalize text = spelling radix number := by
  obtain ⟨sign, nonempty, counted⟩ := denotes
  rename_i digits values
  have trimmed := withoutLeadingZeros_map_toLower isRadix nonempty counted
  have unsigned : normalize digits = spelling radix (positional radix values) := by
    rw [normalize_of_counted isRadix counted, trimmed, spelling, if_neg (by omega),
      Int.natAbs_natCast]
  cases sign with
  | absent => simpa [Sign.characters, Sign.factor] using unsigned
  | plus =>
      have signless : normalize ('+' :: digits) = normalize digits := by
        rw [normalize, normalize, withoutPlus_of_counted counted, withoutPlus]
      simpa [Sign.characters, Sign.factor, signless] using unsigned
  | minus =>
      have lowered : (withoutPlus ('-' :: digits)).map Char.toLower =
          '-' :: digits.map Char.toLower :=
        rfl
      have isZero : numeral radix (positional radix values) = ['0'] ↔
          positional radix values = 0 :=
        numeral_eq_zero_iff isRadix
      simp only [Sign.characters, Sign.factor, List.singleton_append, normalize, lowered,
        trimmed, isZero]
      by_cases zero : positional radix values = 0
      · simp [spelling, zero, numeral]
      · rw [if_neg zero, spelling, if_pos (by omega)]
        simp

/-! ## Reading and normal forms -/

/-- A text that is read as a literal of a radix. -/
def Accepted (radix : Nat) (text : String) : Prop :=
  ∃ number, (read radix text).value = .ok number

/-- A text that is the normal form of a literal of a radix. -/
@[ext]
structure NormalForm (radix : Nat) where
  text : String
  isNormal : ∃ literal, Accepted radix literal ∧ normalForm literal = text

theorem normalForm_of_read {text : String} {number : Int}
    (isRead : (read radix text).value = .ok number) :
    normalForm text = String.ofList (spelling radix number) := by
  obtain ⟨isRadix, denotes⟩ := value_read_eq_ok_iff.mp isRead
  rw [normalForm, normalize_of_denotes isRadix denotes]

theorem value_read_spelling (isRadix : IsRadix radix) (number : Int) :
    (read radix (String.ofList (spelling radix number))).value = .ok number := by
  rw [value_read_eq_ok_iff, String.toList_ofList]
  exact ⟨isRadix, denotes_spelling isRadix number⟩

/-- The normal form that an integer is spelled as. -/
def NormalForm.ofNumber (isRadix : IsRadix radix) (number : Int) : NormalForm radix where
  text := String.ofList (spelling radix number)
  isNormal :=
    have isRead := value_read_spelling isRadix number
    ⟨_, ⟨number, isRead⟩, normalForm_of_read isRead⟩

theorem NormalForm.ofNumber_bijective (isRadix : IsRadix radix) :
    Function.Bijective (ofNumber isRadix) := by
  constructor
  · intro first second same
    have sameText := congrArg NormalForm.text same
    rwa [ofNumber, ofNumber, String.ofList_inj, spelling_inj isRadix] at sameText
  · intro form
    obtain ⟨literal, ⟨number, isRead⟩, normal⟩ := form.isNormal
    exact ⟨number, NormalForm.ext ((normalForm_of_read isRead).symm.trans normal)⟩

/-- Literals of a radix are read as the same integer exactly if their normal forms are
the same.  A literal and its normal form are read as the same integer, and every integer
is read from a literal.  So reading makes the normal forms correspond one to one to the
integers. -/
theorem read_normalForms (isRadix : 2 ≤ radix ∧ radix ≤ 36) :
    (∀ first second, Accepted radix first → Accepted radix second →
      ((read radix first).value = (read radix second).value ↔
        normalForm first = normalForm second)) ∧
    (∀ text number, (read radix text).value = .ok number →
      (read radix (normalForm text)).value = .ok number) ∧
    (∀ number, ∃ text, (read radix text).value = .ok number) ∧
    ∃ correspondence : NormalForm radix ≃ Int,
      ∀ form, (read radix form.text).value = .ok (correspondence form) := by
  have reread (number : Int) := value_read_spelling isRadix number
  refine ⟨?_, ?_, fun number => ⟨_, reread number⟩, ?_⟩
  · rintro first second ⟨firstNumber, isFirst⟩ ⟨secondNumber, isSecond⟩
    rw [isFirst, isSecond, normalForm_of_read isFirst, normalForm_of_read isSecond,
      String.ofList_inj, spelling_inj isRadix, Except.ok.injEq]
  · intro text number isRead
    rw [normalForm_of_read isRead]
    exact reread number
  · have bijective := NormalForm.ofNumber_bijective isRadix
    refine ⟨(Equiv.ofBijective _ bijective).symm, fun form => ?_⟩
    obtain ⟨number, rfl⟩ := bijective.surjective form
    rw [Equiv.ofBijective_symm_apply_apply]
    exact reread number

/-- Zeros, capital letters and the sign of zero make no difference, other signs do. -/
theorem read_normalForms_hexadecimal :
    (read 16 "-00fF").value = (read 16 "-Ff").value ∧
      (read 16 "-000").value = (read 16 "+0").value ∧
      (read 16 "0f").value ≠ (read 16 "-f").value := by
  obtain ⟨same_iff, -⟩ := read_normalForms (by decide : 2 ≤ 16 ∧ 16 ≤ 36)
  refine ⟨(same_iff _ _ ⟨-255, by decide⟩ ⟨-255, by decide⟩).mpr (by decide),
    (same_iff _ _ ⟨0, by decide⟩ ⟨0, by decide⟩).mpr (by decide), ?_⟩
  rw [Ne, same_iff _ _ ⟨15, by decide⟩ ⟨-15, by decide⟩]
  decide

end Literal

end ExactInteger
