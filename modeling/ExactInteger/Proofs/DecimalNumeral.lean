import ExactInteger.Proofs.RadixNumeral
import ExactInteger.Value

/-!
# Canonical decimal text

The canonical decimal texts are `0`, the digit strings without a leading zero,
and these after a minus sign.  Printing an integer gives a canonical text that
reads back as the integer, and printing the value of a canonical text gives the
text back, so integers and canonical texts correspond one to one.
-/

namespace ExactInteger

namespace Decimal

/-- The digits of a natural number, written without leading zeros. -/
inductive IsNumeral : List Char → Prop
  | zero : IsNumeral ['0']
  | positive {leading : Char} {rest : List Char}
      (leadingDigit : leading.isDigit = true) (nonzero : leading ≠ '0')
      (digits : ∀ character ∈ rest, character.isDigit = true) :
      IsNumeral (leading :: rest)

/-- The digits of a natural number, or a minus sign and those of a natural
number that is not zero. -/
inductive IsCanonical : List Char → Prop
  | natural {numeral : List Char} (isNumeral : IsNumeral numeral) :
      IsCanonical numeral
  | negative {numeral : List Char} (isNumeral : IsNumeral numeral)
      (nonzero : numeral ≠ ['0']) : IsCanonical ('-' :: numeral)

/-! ## Decimal digits -/

private theorem counts_digitChar_fin : ∀ value : Fin 10,
    Digit.smallAlphabet[value.val]? = some (Nat.digitChar value.val) ∧
      Digit.capitalAlphabet[value.val]? = some (Nat.digitChar value.val) := by
  decide

/-- The decimal digits are the characters that natural numbers below ten are
printed as. -/
theorem counts_ten_iff {character : Char} {value : Nat} :
    Digit.Counts 10 character value ↔
      value < 10 ∧ Nat.digitChar value = character := by
  rw [Digit.Counts, and_comm]
  refine and_congr_right fun bound => ?_
  obtain ⟨small, capital⟩ := counts_digitChar_fin ⟨value, bound⟩
  rw [small, capital, or_self, Option.some.injEq]

theorem counts_digitChar {value : Nat} (bound : value < 10) :
    Digit.Counts 10 (Nat.digitChar value) value :=
  counts_ten_iff.mpr ⟨bound, rfl⟩

theorem exists_counts_of_isDigit {character : Char}
    (isDigit : character.isDigit = true) :
    ∃ value, Digit.Counts 10 character value := by
  obtain ⟨lower, upper⟩ :
      48 ≤ character.toNat ∧ character.toNat ≤ 57 :=
    Char.isDigit_iff_toNat.mp isDigit
  refine ⟨character.toNat - 48, counts_ten_iff.mpr ⟨by omega, ?_⟩⟩
  apply Char.toNat_inj.mp
  rw [Nat.toNat_digitChar_of_lt_ten (by omega)]
  omega

theorem exists_counted_of_isDigit {text : List Char}
    (isDigit : ∀ character ∈ text, character.isDigit = true) :
    ∃ values, List.Forall₂ (Digit.Counts 10) text values := by
  apply exists_forall₂_iff.mpr
  intro character member
  exact exists_counts_of_isDigit (isDigit character member)

/-! ## Printing a natural number -/

theorem digits_of_lt {number : Nat} (bound : number < 10) :
    digits number = [Nat.digitChar number] :=
  Nat.toDigits_of_lt_base bound

theorem digits_shift {number value : Nat} (positive : 0 < number)
    (bound : value < 10) :
    digits (number * 10 + value) = digits number ++ [Nat.digitChar value] := by
  rw [← digits_of_lt bound, Nat.mul_comm]
  exact (Nat.toDigits_append_toDigits (by omega) positive bound).symm

/-- A property of all natural numbers, by their last decimal digit. -/
theorem decimalInduction {motive : Nat → Prop}
    (digit : ∀ value < 10, motive value)
    (shift : ∀ number value, 0 < number → value < 10 → motive number →
      motive (number * 10 + value)) (number : Nat) : motive number := by
  induction number using Nat.strongRecOn with
  | ind number ih =>
      by_cases small : number < 10
      · exact digit number small
      · have recombined : number / 10 * 10 + number % 10 = number :=
          Nat.div_add_mod' number 10
        rw [← recombined]
        exact shift _ _ (by omega) (by omega) (ih _ (by omega))

private theorem ofValue_fin : ∀ value : Fin 10,
    Digit.ofValue value.val = Nat.digitChar value.val := by
  decide

theorem ofValue_eq_digitChar {value : Nat} (bound : value < 10) :
    Digit.ofValue value = Nat.digitChar value :=
  ofValue_fin ⟨value, bound⟩

/-- The digits that are printed are the numeral of radix ten. -/
theorem digits_eq_numeral (number : Nat) : digits number = Literal.numeral 10 number := by
  induction number using decimalInduction with
  | digit value bound =>
      rw [digits_of_lt bound, ← ofValue_eq_digitChar bound]
      by_cases zero : value = 0
      · rw [zero, Literal.numeral, if_pos rfl, Digit.ofValue_zero]
      · rw [Literal.numeral, if_neg zero, Nat.digits_of_lt 10 value zero bound]
        rfl
  | shift number value positive bound ih =>
      have lastDigit : Nat.digits 10 (number * 10 + value) = value :: Nat.digits 10 number := by
        rw [Nat.mul_comm, Nat.add_comm]
        exact Nat.digits_add 10 (by omega) value number bound (Or.inr (by omega))
      rw [digits_shift positive bound, ih, ← ofValue_eq_digitChar bound, Literal.numeral,
        Literal.numeral, if_neg (by omega), if_neg (by omega), lastDigit, List.reverse_cons,
        List.map_append, List.map_singleton]

theorem isNumeral_digits (number : Nat) : IsNumeral (digits number) := by
  by_cases zero : number = 0
  · rw [zero, digits_of_lt (by omega)]
    exact .zero
  suffices positive : ∃ leading rest, digits number = leading :: rest ∧
      leading ≠ '0' by
    obtain ⟨leading, rest, printed, nonzero⟩ := positive
    have isDigit : ∀ character ∈ leading :: rest, character.isDigit = true := by
      intro character member
      exact Nat.isDigit_of_mem_toDigits (by omega) (by omega) (printed ▸ member)
    rw [List.forall_mem_cons] at isDigit
    rw [printed]
    exact .positive isDigit.1 nonzero isDigit.2
  induction number using decimalInduction with
  | digit value bound =>
      exact ⟨Nat.digitChar value, [], digits_of_lt bound, by simpa using zero⟩
  | shift number value positive bound ih =>
      obtain ⟨leading, rest, printed, nonzero⟩ := ih (by omega)
      exact ⟨leading, rest ++ [Nat.digitChar value],
        by rw [digits_shift positive bound, printed, List.cons_append], nonzero⟩

/-- There is only one digit for each value below ten. -/
theorem eq_map_ofValue_of_counted {text : List Char} {values : List Nat}
    (counted : List.Forall₂ (Digit.Counts 10) text values) :
    text = values.map Digit.ofValue := by
  induction counted with
  | nil => rfl
  | cons counts counted ih =>
      obtain ⟨bound, rfl⟩ := counts_ten_iff.mp counts
      rw [List.map_cons, ofValue_eq_digitChar bound, ← ih]

/-- Printing the value of a numeral gives the numeral back. -/
theorem IsNumeral.exists_counted {numeral : List Char}
    (isNumeral : IsNumeral numeral) :
    ∃ values, List.Forall₂ (Digit.Counts 10) numeral values ∧
      digits (positional 10 values) = numeral := by
  cases isNumeral with
  | zero =>
      exact ⟨[0], .cons (counts_digitChar (by omega)) .nil, by decide⟩
  | positive leadingDigit nonzero isDigit =>
      rename_i leading rest
      obtain ⟨value, counts⟩ := exists_counts_of_isDigit leadingDigit
      obtain ⟨values, counted⟩ := exists_counted_of_isDigit isDigit
      have leadingCounted := List.Forall₂.cons counts counted
      have notZero : value ≠ 0 := by
        rintro rfl
        exact nonzero (counts_ten_iff.mp counts).2.symm
      refine ⟨value :: values, leadingCounted, ?_⟩
      rw [digits_eq_numeral, eq_map_ofValue_of_counted leadingCounted]
      exact Literal.numeral_positional_cons (by decide) notZero
        (Literal.below_of_counted leadingCounted)

/-! ## Integers -/

theorem digits_eq_zero_iff {number : Nat} : digits number = ['0'] ↔ number = 0 := by
  rw [digits_eq_numeral, Literal.numeral_eq_zero_iff (by decide)]

/-- The text that is printed is the spelling in radix ten. -/
theorem characters_eq_spelling (number : Int) :
    characters number = Literal.spelling 10 number := by
  rw [characters, Literal.spelling, digits_eq_numeral]

theorem isCanonical_characters (number : Int) :
    IsCanonical (characters number) := by
  by_cases negative : number < 0
  · rw [characters_of_neg negative]
    refine .negative (isNumeral_digits number.natAbs) ?_
    rw [Ne, digits_eq_zero_iff]
    omega
  · rw [characters_of_nonneg (by omega)]
    exact .natural (isNumeral_digits number.natAbs)

theorem denotes_characters (number : Int) :
    Literal.Denotes 10 (characters number) number := by
  rw [characters_eq_spelling]
  exact Literal.denotes_spelling (by decide) number

theorem characters_inj {first second : Int} :
    characters first = characters second ↔ first = second := by
  rw [characters_eq_spelling, characters_eq_spelling, Literal.spelling_inj (by decide)]

/-- A canonical text denotes an integer that is printed as the text. -/
theorem IsCanonical.exists_denotes {text : List Char}
    (isCanonical : IsCanonical text) :
    ∃ number, Literal.Denotes 10 text number ∧ characters number = text := by
  cases isCanonical with
  | natural isNumeral =>
      obtain ⟨values, counted, printed⟩ := isNumeral.exists_counted
      have nonempty : text ≠ [] := by
        rintro rfl
        cases isNumeral
      refine ⟨_, .intro .absent nonempty counted, ?_⟩
      rw [characters_of_nonneg (by simp [Literal.Sign.factor])]
      simpa [Literal.Sign.factor] using printed
  | negative isNumeral nonzero =>
      rename_i numeral
      obtain ⟨values, counted, printed⟩ := isNumeral.exists_counted
      have nonempty : numeral ≠ [] := by
        rintro rfl
        cases isNumeral
      have positive : 0 < positional 10 values := by
        rw [Nat.pos_iff_ne_zero]
        intro zero
        exact nonzero (by rw [← printed, digits_eq_zero_iff, zero])
      refine ⟨_, .intro .minus nonempty counted, ?_⟩
      rw [characters_of_neg (by simp [Literal.Sign.factor, positive])]
      simpa [Literal.Sign.factor] using printed

theorem IsNumeral.isDigit {numeral : List Char} (isNumeral : IsNumeral numeral) :
    ∀ character ∈ numeral, character.isDigit = true := by
  cases isNumeral with
  | zero => simp
  | positive leadingDigit nonzero isDigit =>
      exact List.forall_mem_cons.mpr ⟨leadingDigit, isDigit⟩

theorem IsCanonical.eq_minus_or_isDigit {text : List Char}
    (isCanonical : IsCanonical text) {character : Char}
    (member : character ∈ text) : character = '-' ∨ character.isDigit = true := by
  cases isCanonical with
  | natural isNumeral => exact Or.inr (isNumeral.isDigit character member)
  | negative isNumeral nonzero =>
      rcases List.mem_cons.mp member with isMinus | member
      · exact Or.inl isMinus
      · exact Or.inr (isNumeral.isDigit character member)

theorem head?_characters_eq_minus_iff {number : Int} :
    (characters number).head? = some '-' ↔ number < 0 := by
  by_cases negative : number < 0
  · simp [characters_of_neg negative, negative]
  · have isDigit := (isNumeral_digits number.natAbs).isDigit
    rw [characters_of_nonneg (by omega), iff_false_right negative]
    intro isMinus
    have member := List.mem_of_mem_head? (Option.mem_def.mpr isMinus)
    exact absurd (isDigit '-' member) (by decide)

theorem characters_eq_zero_iff {number : Int} :
    characters number = ['0'] ↔ number = 0 := by
  by_cases negative : number < 0
  · rw [characters_of_neg negative]
    simp [negative.ne]
  · rw [characters_of_nonneg (by omega), digits_eq_zero_iff, Int.natAbs_eq_zero]

theorem toString_eq_ofInt (number : Int) : toString number = ofInt number := by
  rw [← String.toList_inj, toList_ofInt]
  cases number with
  | ofNat number =>
      rw [Int.ofNat_eq_natCast, characters_of_nonneg (Int.natCast_nonneg number)]
      exact Nat.toList_repr
  | negSucc number =>
      rw [characters_of_neg (Int.negSucc_lt_zero number)]
      change ("-" ++ (number + 1).repr).toList = _
      rw [String.toList_append, Nat.toList_repr]
      rfl

theorem value_readDecimal_ofInt (number : Int) :
    (Literal.readDecimal (ofInt number)).value = .ok number := by
  rw [Literal.value_readDecimal_eq_ok_iff, toList_ofInt]
  exact denotes_characters number

/-- Every integer is printed on one line as a canonical text, whichever way it is
printed.  The text starts with a minus sign exactly for negative integers, is
`0` exactly for zero, and reads back as the integer; and every canonical text
reads as an integer that is printed as that text. -/
theorem print_read_bijection :
    (∀ number : Int, ∃ text : String,
      (Representation.lines number = [text] ∧ IsCanonical text.toList ∧
        '\n' ∉ text.toList) ∧
      (text.toList.head? = some '-' ↔ number < 0) ∧
      (text = "0" ↔ number = 0) ∧
      (toString number = text ∧ pretty number = text) ∧
      (Representation.lines (Value.integer number) = [text] ∧
        toString (Value.integer number) = text ∧
        pretty (Value.integer number) = text) ∧
      (Literal.readDecimal text).value = .ok number) ∧
    (∀ text : String, IsCanonical text.toList →
      ∃ number : Int, (Literal.readDecimal text).value = .ok number ∧
        Representation.lines number = [text]) := by
  constructor
  · intro number
    have isCanonical := isCanonical_characters number
    refine ⟨ofInt number, ⟨rfl, ?_, ?_⟩, ?_, ?_,
      ⟨toString_eq_ofInt number, pretty_int number⟩,
      ⟨rfl, pretty_integer number, pretty_integer number⟩,
      value_readDecimal_ofInt number⟩
    · rw [toList_ofInt]
      exact isCanonical
    · rw [toList_ofInt]
      intro member
      exact absurd (isCanonical.eq_minus_or_isDigit member) (by decide)
    · rw [toList_ofInt, head?_characters_eq_minus_iff]
    · rw [← String.toList_inj, toList_ofInt]
      exact characters_eq_zero_iff
  · intro text isCanonical
    obtain ⟨number, denotes, printed⟩ := isCanonical.exists_denotes
    refine ⟨number, Literal.value_readDecimal_eq_ok_iff.mpr denotes, ?_⟩
    have textEq : ofInt number = text := by
      rw [← String.toList_inj, toList_ofInt, printed]
    exact congrArg (fun line => [line]) textEq

theorem print_read_bijection_below_words :
    IsCanonical "-9223372036854775809".toList ∧
      ∃ number : Int,
        (Literal.readDecimal "-9223372036854775809").value = .ok number ∧
          Representation.lines number = ["-9223372036854775809"] := by
  have isCanonical : IsCanonical "-9223372036854775809".toList :=
    .negative
      (.positive (by decide) (by decide) (List.all_eq_true.mp (by decide)))
      (by decide)
  exact ⟨isCanonical, print_read_bijection.2 _ isCanonical⟩

end Decimal

end ExactInteger
