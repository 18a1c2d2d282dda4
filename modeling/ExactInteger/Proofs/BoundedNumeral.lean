import ExactInteger.Proofs.NormalForms
import ExactInteger.Word32

/-!
# Numerals of 32 bits

A numeral of 32 bits is read from the left, with a check at every digit that the number
still has a place.  The numbers only grow on the way, so the check fails exactly if the
digits at some start of the text stand for too large a number, even if characters follow
that are no digits.  Whatever is read is the number that the whole text denotes as a
literal; only zero has literals with a minus sign besides.
-/

namespace ExactInteger

namespace Word32

/-! ## Digits after a number -/

/-- The number that digit values stand for when they follow the digits of a number. -/
def valueAfter (start : Nat) (values : List Nat) : Nat :=
  values.foldl (fun total value => total * 10 + value) start

theorem valueAfter_zero (values : List Nat) : valueAfter 0 values = positional 10 values := by
  rw [valueAfter, foldl_eq_positional, Nat.zero_mul, Nat.zero_add]

/-- Further digits make no number smaller. -/
theorem le_valueAfter (start : Nat) (values : List Nat) : start ≤ valueAfter start values := by
  induction values generalizing start with
  | nil => exact Nat.le_refl start
  | cons value values ih =>
      have further := ih (start * 10 + value)
      rw [valueAfter, List.foldl_cons, ← valueAfter]
      omega

theorem counted_cons_iff {character : Char} {digit : Nat} {rest : List Char}
    {values : List Nat} (found : Digit.ofRadix? 10 character = some digit) :
    List.Forall₂ (Digit.Counts 10) (character :: rest) values ↔
      ∃ others, values = digit :: others ∧ List.Forall₂ (Digit.Counts 10) rest others := by
  rw [List.forall₂_cons_left_iff]
  constructor
  · rintro ⟨value, others, counts, counted, rfl⟩
    have sameDigit := found.symm.trans (Digit.ofRadix?_eq_some_iff_counts.mpr counts)
    exact ⟨others, by rw [Option.some.inj sameDigit], counted⟩
  · rintro ⟨others, rfl, counted⟩
    exact ⟨digit, others, Digit.ofRadix?_eq_some_iff_counts.mp found, counted, rfl⟩

theorem not_counted_cons {character : Char} {rest : List Char} {values : List Nat}
    (notFound : Digit.ofRadix? 10 character = none) :
    ¬ List.Forall₂ (Digit.Counts 10) (character :: rest) values := by
  rw [List.forall₂_cons_left_iff]
  rintro ⟨value, others, counts, -, -⟩
  rw [Digit.ofRadix?_eq_some_iff_counts.mpr counts] at notFound
  cases notFound

theorem size_eq : size = 2 ^ 32 :=
  rfl

theorem zero_lt_size : 0 < size := by
  decide

variable {start number : Nat} {text : List Char}

theorem readAfter_ne_empty : readAfter start text ≠ .error .empty := by
  induction text generalizing start with
  | nil => simp [readAfter]
  | cons character rest ih =>
      rw [readAfter]
      split
      next => simp
      next digit found =>
        split
        next => exact ih
        next => simp

theorem readAfter_eq_ok_iff (bound : start < size) :
    readAfter start text = .ok number ↔
      number < size ∧ ∃ values, List.Forall₂ (Digit.Counts 10) text values ∧
        valueAfter start values = number := by
  induction text generalizing start with
  | nil =>
      simp only [readAfter, List.forall₂_nil_left_iff, exists_eq_left, valueAfter,
        List.foldl_nil, Except.ok.injEq]
      omega
  | cons character rest ih =>
      rw [readAfter]
      split
      next notFound => simp [not_counted_cons notFound]
      next digit found =>
        simp only [counted_cons_iff found]
        split
        next small =>
          rw [ih small]
          simp [valueAfter]
        next large =>
          -- The rest of the digits does not make the number smaller again.
          simp only [reduceCtorEq, false_iff, not_and, not_exists]
          rintro fits _ ⟨others, rfl, -⟩ valueEq
          have grows := le_valueAfter (start * 10 + digit) others
          rw [valueAfter, List.foldl_cons, ← valueAfter] at valueEq
          omega

theorem readAfter_eq_overflow_iff (bound : start < size) :
    readAfter start text = .error .overflow ↔
      ∃ digits values, digits <+: text ∧ List.Forall₂ (Digit.Counts 10) digits values ∧
        size ≤ valueAfter start values := by
  induction text generalizing start with
  | nil =>
      simp only [readAfter, reduceCtorEq, false_iff, List.prefix_nil]
      rintro ⟨_, values, rfl, counted, large⟩
      rw [List.forall₂_nil_left_iff.mp counted] at large
      exact absurd large (by simpa [valueAfter] using bound)
  | cons character rest ih =>
      -- A start of the text that is too large holds at least the first character.
      have split_first : (∃ digits values, digits <+: character :: rest ∧
          List.Forall₂ (Digit.Counts 10) digits values ∧ size ≤ valueAfter start values) ↔
          ∃ digits values, digits <+: rest ∧
            List.Forall₂ (Digit.Counts 10) (character :: digits) values ∧
              size ≤ valueAfter start values := by
        constructor
        · rintro ⟨digits, values, isStart, counted, large⟩
          rcases List.prefix_cons_iff.mp isStart with rfl | ⟨others, rfl, isRestStart⟩
          · rw [List.forall₂_nil_left_iff.mp counted] at large
            exact absurd large (by simpa [valueAfter] using bound)
          · exact ⟨others, values, isRestStart, counted, large⟩
        · rintro ⟨digits, values, isStart, counted, large⟩
          exact ⟨character :: digits, values, List.cons_prefix_cons.mpr ⟨rfl, isStart⟩, counted,
            large⟩
      rw [split_first, readAfter]
      split
      next notFound => simp [not_counted_cons notFound]
      next digit found =>
        simp only [counted_cons_iff found]
        split
        next small =>
          rw [ih small]
          simp [valueAfter]
        next large =>
          refine iff_of_true rfl ⟨[], [digit], List.nil_prefix, ⟨[], rfl, .nil⟩, ?_⟩
          simpa [valueAfter] using large

/-! ## Numerals after an optional plus sign -/

/-- One or more digits, which may follow a plus sign, stand for a number. -/
def Spells (text : List Char) (number : Nat) : Prop :=
  Literal.withoutPlus text ≠ [] ∧
    ∃ values, List.Forall₂ (Digit.Counts 10) (Literal.withoutPlus text) values ∧
      positional 10 values = number

/-- Digits at the start of a text, which may follow a plus sign, stand for a number that
has no place in 32 bits. -/
def Exceeds (text : List Char) : Prop :=
  ∃ digits values, digits <+: Literal.withoutPlus text ∧
    List.Forall₂ (Digit.Counts 10) digits values ∧ 2 ^ 32 ≤ positional 10 values

theorem read_of_ne_nil (nonempty : text ≠ []) :
    read text = if Literal.withoutPlus text = [] then .error .invalidDigit
      else readAfter 0 (Literal.withoutPlus text) := by
  rw [read.eq_def]
  split
  next => exact absurd rfl nonempty
  next => simp [Literal.withoutPlus]
  next digits notAlone =>
    rw [Literal.withoutPlus, if_neg fun nothing => notAlone (by rw [nothing])]
  next noPlus =>
    have bare : Literal.withoutPlus text = text := by
      rw [Literal.withoutPlus]
      exact noPlus
    rw [bare, if_neg nonempty]

theorem read_eq_empty_iff : read text = .error .empty ↔ text = [] := by
  constructor
  · intro isEmpty
    by_contra nonempty
    rw [read_of_ne_nil nonempty] at isEmpty
    split at isEmpty
    next => cases isEmpty
    next => exact readAfter_ne_empty isEmpty
  · rintro rfl
    rfl

theorem read_eq_ok_iff : read text = .ok number ↔ Spells text number ∧ number < 2 ^ 32 := by
  by_cases nonempty : text = []
  · simp [nonempty, read, Spells, Literal.withoutPlus]
  rw [read_of_ne_nil nonempty, Spells]
  split
  next nothing => simp [nothing]
  next something =>
    simp only [readAfter_eq_ok_iff zero_lt_size, valueAfter_zero, something, size_eq, Ne,
      not_false_eq_true, true_and]
    exact And.comm

theorem read_eq_overflow_iff : read text = .error .overflow ↔ Exceeds text := by
  by_cases nonempty : text = []
  · simp [nonempty, read, Exceeds, Literal.withoutPlus]
  rw [read_of_ne_nil nonempty, Exceeds]
  split
  next nothing => simp [nothing]
  next => simp only [readAfter_eq_overflow_iff zero_lt_size, valueAfter_zero, size_eq]

/-- Whatever else is no numeral of 32 bits holds a character that is out of place. -/
theorem read_eq_invalidDigit_iff :
    read text = .error .invalidDigit ↔
      text ≠ [] ∧ ¬ Exceeds text ∧ ∀ number, ¬(Spells text number ∧ number < 2 ^ 32) := by
  simp only [Ne, ← read_eq_empty_iff, ← read_eq_overflow_iff, ← read_eq_ok_iff]
  cases read text with
  | ok number => simp
  | error error => cases error <;> simp

theorem eq_or_eq_plus_withoutPlus (text : List Char) :
    text = Literal.withoutPlus text ∨ text = '+' :: Literal.withoutPlus text := by
  rw [Literal.withoutPlus.eq_def]
  split
  next => exact Or.inr rfl
  next => exact Or.inl rfl

/-- A numeral begins with nothing but a plus sign or a digit. -/
theorem Spells.head?_ne (spells : Spells text number) {other : Char} (notPlus : other ≠ '+')
    (noDigit : Digit.value? other = none) : text.head? ≠ some other := by
  obtain ⟨nonempty, values, counted, -⟩ := spells
  rcases eq_or_eq_plus_withoutPlus text with bare | signed
  · rw [← bare] at counted
    cases counted with
    | nil => simp
    | cons counts counted => simpa using counts.ne_of_value?_eq_none noDigit
  · rw [signed]
    simpa using notPlus.symm

/-! ## Numerals and literals -/

/-- A literal of a positive number has no minus sign, so it is a numeral. -/
theorem denotes_iff_spells (positive : 0 < number) :
    Literal.Denotes 10 text number ↔ Spells text number := by
  constructor
  · intro denotes
    generalize integerEq : (number : Int) = integer at denotes
    obtain ⟨sign, nonempty, counted⟩ := denotes
    rename_i digits values
    cases sign with
    | absent =>
        have bare : Literal.withoutPlus digits = digits := Literal.withoutPlus_of_counted counted
        rw [Literal.Sign.characters, List.nil_append, Spells, bare]
        exact ⟨nonempty, values, counted, by simpa [Literal.Sign.factor] using integerEq.symm⟩
    | plus =>
        exact ⟨nonempty, values, counted, by simpa [Literal.Sign.factor] using integerEq.symm⟩
    | minus =>
        simp only [Literal.Sign.factor] at integerEq
        omega
  · rintro ⟨nonempty, values, counted, rfl⟩
    rcases eq_or_eq_plus_withoutPlus text with bare | signed
    · have denotes := Literal.Denotes.intro .absent nonempty counted
      rw [Literal.Sign.characters, List.nil_append, ← bare] at denotes
      simpa [Literal.Sign.factor] using denotes
    · have denotes := Literal.Denotes.intro .plus nonempty counted
      rw [Literal.Sign.characters, List.singleton_append, ← signed] at denotes
      simpa [Literal.Sign.factor] using denotes

end Word32

end ExactInteger
