import ExactInteger.Literal
import ExactInteger.Proofs.Positional
import Mathlib.Data.List.Forall2

/-!
# The grammar of literals

A literal is a sign, which may be absent, followed by one or more digits of its
radix; it denotes the positional value of the digits with that sign.  The
grammar is stated without the reader.  Splitting checks the characters and
conversion computes the value, and this file proves that together they accept
exactly the grammar and compute exactly its values.
-/

namespace ExactInteger

/-- Partners for the elements of a list can be chosen one by one. -/
theorem exists_forall₂_iff {α β : Type} {related : α → β → Prop} {list : List α} :
    (∃ partners, List.Forall₂ related list partners) ↔
      ∀ element ∈ list, ∃ partner, related element partner := by
  induction list with
  | nil => simp
  | cons element list ih =>
      rw [List.forall_mem_cons, ← ih]
      constructor
      · rintro ⟨_, _ | ⟨relates, matched⟩⟩
        exact ⟨⟨_, relates⟩, ⟨_, matched⟩⟩
      · rintro ⟨⟨partner, relates⟩, ⟨partners, matched⟩⟩
        exact ⟨partner :: partners, .cons relates matched⟩

namespace Digit

/-- The digits in the order of their values, with small letters. -/
def smallAlphabet : List Char :=
  "0123456789abcdefghijklmnopqrstuvwxyz".toList

/-- The digits in the order of their values, with capital letters. -/
def capitalAlphabet : List Char :=
  "0123456789ABCDEFGHIJKLMNOPQRSTUVWXYZ".toList

/-- A character is a digit of a radix when its place in one of the alphabets,
which is its value, lies below the radix. -/
def Counts (radix : Nat) (character : Char) (value : Nat) : Prop :=
  (smallAlphabet[value]? = some character ∨
    capitalAlphabet[value]? = some character) ∧ value < radix

private theorem value?_smallAlphabet :
    ∀ value : Fin smallAlphabet.length,
      value? smallAlphabet[value] = some value.val := by
  decide

private theorem value?_capitalAlphabet :
    ∀ value : Fin capitalAlphabet.length,
      value? capitalAlphabet[value] = some value.val := by
  decide

private theorem smallAlphabet_decimal : ∀ offset : Fin 10,
    smallAlphabet[offset.val]? = some (Char.ofNat (0x30 + offset.val)) := by
  decide

private theorem smallAlphabet_letter : ∀ offset : Fin 26,
    smallAlphabet[offset.val + 10]? = some (Char.ofNat (0x61 + offset.val)) := by
  decide

private theorem capitalAlphabet_letter : ∀ offset : Fin 26,
    capitalAlphabet[offset.val + 10]? = some (Char.ofNat (0x41 + offset.val)) := by
  decide

private theorem ofNat_add_sub {character : Char} {start : Nat}
    (above : start ≤ character.toNat) :
    Char.ofNat (start + (character.toNat - start)) = character := by
  rw [Nat.add_sub_cancel' above, Char.ofNat_toNat]

/-- The code point ranges of digits are the two alphabets. -/
theorem value?_eq_some_iff {character : Char} {value : Nat} :
    value? character = some value ↔
      smallAlphabet[value]? = some character ∨
        capitalAlphabet[value]? = some character := by
  constructor
  · intro valued
    simp only [value?] at valued
    split at valued
    next decimal =>
      cases valued
      have found := smallAlphabet_decimal ⟨character.toNat - 0x30, by omega⟩
      exact Or.inl (by rw [found, ofNat_add_sub decimal.1])
    split at valued
    next capital =>
      cases valued
      have found := capitalAlphabet_letter ⟨character.toNat - 0x41, by omega⟩
      exact Or.inr (by rw [found, ofNat_add_sub capital.1])
    split at valued
    next small =>
      cases valued
      have found := smallAlphabet_letter ⟨character.toNat - 0x61, by omega⟩
      exact Or.inl (by rw [found, ofNat_add_sub small.1])
    next => simp at valued
  · rintro (found | found)
    · obtain ⟨bound, rfl⟩ := List.getElem?_eq_some_iff.mp found
      exact value?_smallAlphabet ⟨value, bound⟩
    · obtain ⟨bound, rfl⟩ := List.getElem?_eq_some_iff.mp found
      exact value?_capitalAlphabet ⟨value, bound⟩

theorem ofRadix?_eq_some_iff_counts {radix value : Nat} {character : Char} :
    ofRadix? radix character = some value ↔ Counts radix character value := by
  rw [ofRadix?_eq_some_iff, value?_eq_some_iff, Counts]

theorem belongsTo_iff_counts {radix : Nat} {character : Char} :
    belongsTo radix character = true ↔
      ∃ value, Counts radix character value := by
  simp [belongsTo, Option.isSome_iff_exists, ofRadix?_eq_some_iff_counts]

theorem Counts.ne_of_value?_eq_none {radix value : Nat}
    {character other : Char} (counts : Counts radix character value)
    (uncounted : value? other = none) : character ≠ other := by
  rintro rfl
  have valued := value?_eq_some_iff.mpr counts.1
  exact absurd valued (by simp [uncounted])

theorem Counts.eq_zero {radix value : Nat} (counts : Counts radix '0' value) :
    value = 0 := by
  have valued := value?_eq_some_iff.mpr counts.1
  exact Option.some.inj (valued.symm.trans (by decide))

end Digit

namespace Literal

/-! ## The grammar -/

inductive Sign where
  | absent
  | plus
  | minus

def Sign.characters : Sign → List Char
  | .absent => []
  | .plus => ['+']
  | .minus => ['-']

def Sign.factor : Sign → Int
  | .absent => 1
  | .plus => 1
  | .minus => -1

/-- A text is a literal of a radix and denotes a number. -/
inductive Denotes (radix : Nat) : List Char → Int → Prop
  /-- A sign and one or more digits denote the signed value of the digits. -/
  | intro (sign : Sign) {digits : List Char} {values : List Nat}
      (nonempty : digits ≠ [])
      (counted : List.Forall₂ (Digit.Counts radix) digits values) :
      Denotes radix (sign.characters ++ digits)
        (sign.factor * positional radix values)

theorem below_of_counted {radix : Nat} {digits : List Char} {values : List Nat}
    (counted : List.Forall₂ (Digit.Counts radix) digits values) :
    ∀ value ∈ values, value < radix := by
  intro value member
  obtain ⟨character, counts⟩ :=
    exists_forall₂_iff.mp ⟨digits, counted.flip⟩ value member
  exact counts.2

/-! ## Conversion -/

private theorem foldlM_eq_some_iff {radix start total : Nat}
    {digits : List Char} :
    digits.foldlM
        (fun value character =>
          (Digit.ofRadix? radix character).map (value * radix + ·)) start =
        some total ↔
      ∃ values, List.Forall₂ (Digit.Counts radix) digits values ∧
        values.foldl (fun total value => total * radix + value) start =
          total := by
  induction digits generalizing start with
  | nil => simp
  | cons character digits ih =>
      simp only [List.foldlM_cons, Option.bind_eq_bind,
        Option.bind_eq_some_iff, Option.map_eq_some_iff,
        Digit.ofRadix?_eq_some_iff_counts, ih, List.forall₂_cons_left_iff]
      constructor
      · rintro ⟨_, ⟨value, counts, rfl⟩, values, counted, folded⟩
        exact ⟨value :: values, ⟨value, values, counts, counted, rfl⟩, folded⟩
      · rintro ⟨_, ⟨value, values, counts, counted, rfl⟩, folded⟩
        exact ⟨_, ⟨value, counts, rfl⟩, values, counted, folded⟩

/-- Conversion succeeds on one or more digits and computes their positional
value. -/
theorem magnitude?_eq_some_iff {radix magnitude : Nat} {digits : List Char} :
    magnitude? radix digits = some magnitude ↔
      digits ≠ [] ∧
        ∃ values, List.Forall₂ (Digit.Counts radix) digits values ∧
          positional radix values = magnitude := by
  rw [magnitude?]
  split
  next isEmpty =>
    have empty : digits = [] := List.isEmpty_iff.mp isEmpty
    simp [empty]
  next notEmpty =>
    have nonempty : digits ≠ [] := fun empty => notEmpty (by simp [empty])
    simp [foldlM_eq_some_iff, foldl_eq_positional, nonempty]

theorem digitError?_eq_none_iff {radix : Nat} {digits : List Char} :
    digitError? radix digits = none ↔
      digits ≠ [] ∧
        ∀ character ∈ digits, Digit.belongsTo radix character = true := by
  rw [digitError?]
  split
  next isEmpty =>
    have empty : digits = [] := List.isEmpty_iff.mp isEmpty
    simp [empty]
  next notEmpty =>
    have nonempty : digits ≠ [] := fun empty => notEmpty (by simp [empty])
    simp [nonempty]

private theorem exists_counted_iff {radix : Nat} {digits : List Char} :
    (∃ values, List.Forall₂ (Digit.Counts radix) digits values) ↔
      ∀ character ∈ digits, Digit.belongsTo radix character = true := by
  rw [exists_forall₂_iff]
  simp only [Digit.belongsTo_iff_counts]

/-- A conversion computes the positional value of one or more digits.  What it
does to any other text is left open. -/
def Conversion.IsPositional (conversion : Conversion) : Prop :=
  ∀ {radix : Nat} {digits : List Char} {values : List Nat},
    IsRadix radix → digits ≠ [] →
      List.Forall₂ (Digit.Counts radix) digits values →
        conversion radix digits = some (positional radix values : Int)

theorem convert_isPositional : Conversion.IsPositional convert := by
  intro radix digits values isRadix nonempty counted
  have converted : magnitude? radix digits = some (positional radix values) :=
    magnitude?_eq_some_iff.mpr ⟨nonempty, values, counted, rfl⟩
  simp [convert, converted]

/-! ## Signs -/

def Sign.before (sign : Sign) (digits : List Char) : Parts :=
  ⟨sign matches .minus, digits⟩

@[simp]
theorem signed_before (sign : Sign) (digits : List Char) (magnitude : Int) :
    signed (sign.before digits).negative magnitude = sign.factor * magnitude := by
  cases sign <;> simp [Sign.before, Sign.factor, signed]

theorem takeSign_characters_append {radix : Nat} (sign : Sign)
    {digits : List Char} {values : List Nat}
    (counted : List.Forall₂ (Digit.Counts radix) digits values) :
    takeSign (sign.characters ++ digits) = sign.before digits := by
  cases sign with
  | plus => rfl
  | minus => rfl
  | absent =>
      -- Without a sign, the first digit must not be taken for one.
      cases counted with
      | nil => rfl
      | @cons character value rest values counts counted =>
          have notMinus : character ≠ '-' := counts.ne_of_value?_eq_none rfl
          have notPlus : character ≠ '+' := counts.ne_of_value?_eq_none rfl
          simp [Sign.characters, Sign.before, takeSign, notMinus, notPlus]

theorem exists_sign (text : List Char) :
    ∃ sign : Sign, ∃ rest : List Char,
      text = sign.characters ++ rest ∧ takeSign text = sign.before rest := by
  rw [takeSign.eq_def]
  split
  next rest => exact ⟨.minus, rest, rfl, rfl⟩
  next rest => exact ⟨.plus, rest, rfl, rfl⟩
  next => exact ⟨.absent, text, rfl, rfl⟩

/-! ## Splitting -/

/-- Splitting accepts exactly the signed digits of a radix. -/
theorem split_eq_ok_iff {radix : Nat} {text : List Char} {parts : Parts} :
    split radix text = .ok parts ↔
      IsRadix radix ∧
        ∃ (sign : Sign) (digits : List Char) (values : List Nat),
          text = sign.characters ++ digits ∧ parts = sign.before digits ∧
            digits ≠ [] ∧ List.Forall₂ (Digit.Counts radix) digits values := by
  rw [split]
  split
  next isRadix =>
    obtain ⟨sign, rest, written, taken⟩ := exists_sign text
    simp only [isRadix, true_and]
    constructor
    · intro accepted
      split at accepted
      next => simp at accepted
      next passed =>
        rw [taken] at accepted passed
        obtain ⟨nonempty, belong⟩ := digitError?_eq_none_iff.mp passed
        obtain ⟨values, counted⟩ := exists_counted_iff.mpr belong
        cases accepted
        exact ⟨sign, rest, values, written, rfl, nonempty, counted⟩
    · rintro ⟨sign, digits, values, rfl, rfl, nonempty, counted⟩
      have passed : digitError? radix (sign.before digits).digits = none :=
        digitError?_eq_none_iff.mpr
          ⟨nonempty, exists_counted_iff.mp ⟨values, counted⟩⟩
      rw [takeSign_characters_append sign counted, passed]
  next noRadix => simp [noRadix]

/-! ## Reading -/

/-- A text has a value exactly when it is a literal, and it is the number that
the literal denotes. -/
theorem valueBy_eq_ok_iff {conversion : Conversion}
    (isPositional : conversion.IsPositional)
    {radix : Nat} {text : List Char} {number : Int} :
    valueBy conversion radix text = .ok number ↔
      IsRadix radix ∧ Denotes radix text number := by
  constructor
  · intro valued
    rw [valueBy] at valued
    split at valued
    next => simp at valued
    next parts cut =>
      obtain ⟨isRadix, sign, digits, values, rfl, rfl, nonempty, counted⟩ :=
        split_eq_ok_iff.mp cut
      have converted : conversion radix (sign.before digits).digits =
          some (positional radix values : Int) :=
        isPositional isRadix nonempty counted
      rw [converted] at valued
      simp only [signed_before, Except.ok.injEq] at valued
      exact ⟨isRadix, valued ▸ .intro sign nonempty counted⟩
  · rintro ⟨isRadix, ⟨sign, nonempty, counted⟩⟩
    rename_i digits values
    have converted : conversion radix (sign.before digits).digits =
        some (positional radix values : Int) :=
      isPositional isRadix nonempty counted
    have cut : split radix (sign.characters ++ digits) =
        .ok (sign.before digits) :=
      split_eq_ok_iff.mpr
        ⟨isRadix, sign, digits, values, rfl, rfl, nonempty, counted⟩
    rw [valueBy, cut]
    simp only [converted, signed_before]

/-- No text denotes two different numbers. -/
theorem Denotes.unique {radix : Nat} (isRadix : IsRadix radix) {text : List Char}
    {first second : Int} (denotesFirst : Denotes radix text first)
    (denotesSecond : Denotes radix text second) : first = second := by
  have valuedFirst := (valueBy_eq_ok_iff convert_isPositional).mpr ⟨isRadix, denotesFirst⟩
  have valuedSecond := (valueBy_eq_ok_iff convert_isPositional).mpr ⟨isRadix, denotesSecond⟩
  exact Except.ok.inj (valuedFirst.symm.trans valuedSecond)

/-- Splitting leaves nothing to a conversion but digits, so a conversion that
accepts more texts is no different. -/
theorem valueBy_eq_valueBy_convert {conversion : Conversion}
    (isPositional : conversion.IsPositional) (radix : Nat) (text : List Char) :
    valueBy conversion radix text = valueBy convert radix text := by
  rw [valueBy, valueBy]
  split
  next => rfl
  next parts cut =>
    obtain ⟨isRadix, sign, digits, values, rfl, rfl, nonempty, counted⟩ :=
      split_eq_ok_iff.mp cut
    have converted : conversion radix (sign.before digits).digits =
        convert radix (sign.before digits).digits :=
      (isPositional isRadix nonempty counted).trans
        (convert_isPositional isRadix nonempty counted).symm
    rw [converted]

theorem readBy_eq_read {conversion : Conversion}
    (isPositional : conversion.IsPositional) (radix : Nat) (text : String) :
    readBy conversion radix text = read radix text := by
  rw [read, readBy, readBy, valueBy_eq_valueBy_convert isPositional]

theorem value_read_eq_ok_iff {radix : Nat} {text : String} {number : Int} :
    (read radix text).value = .ok number ↔
      IsRadix radix ∧ Denotes radix text.toList number := by
  rw [← valueBy_eq_ok_iff convert_isPositional, read, readBy]
  split
  next isRadix => split <;> simp_all
  next noRadix => simp [valueBy_eq_ok_iff convert_isPositional, noRadix]

theorem value_read_eq_error_iff {radix : Nat} {text : String}
    {error : ValueError} :
    (read radix text).value = .error error ↔
      (¬ IsRadix radix ∧ .invalidRadix radix = error) ∨
        (IsRadix radix ∧ (∀ number, ¬ Denotes radix text.toList number) ∧
          .malformedLiteral text = error) := by
  rw [read, readBy]
  split
  next isRadix =>
    have denotes_iff (number : Int) : Denotes radix text.toList number ↔
        valueBy convert radix text.toList = .ok number := by
      simp [valueBy_eq_ok_iff convert_isPositional, isRadix]
    split
    next number valued => simp [isRadix, denotes_iff, valued]
    next refusal refused => simp [isRadix, denotes_iff, refused]
  next noRadix => simp [noRadix]

theorem value_readDecimal_eq_ok_iff {text : String} {number : Int} :
    (readDecimal text).value = .ok number ↔ Denotes 10 text.toList number := by
  have isRadix : IsRadix 10 := by decide
  rw [readDecimal, value_read_eq_ok_iff, and_iff_right isRadix]

/-- Reading refuses a radix outside of its bounds whatever the text is, reads
exactly the literals of any other radix as the numbers they denote, and refuses
every other text with the complete text.  Reading decimal text is the case of
radix ten.  All that this takes of the conversion is that it is positional on
digits. -/
theorem read_classification (radix : Nat) (text : String) :
    ((read radix text).value = .error (.invalidRadix radix) ↔
      ¬(2 ≤ radix ∧ radix ≤ 36)) ∧
    (∀ number, (read radix text).value = .ok number ↔
      (2 ≤ radix ∧ radix ≤ 36) ∧ Denotes radix text.toList number) ∧
    ((read radix text).value = .error (.malformedLiteral text) ↔
      (2 ≤ radix ∧ radix ≤ 36) ∧
        ∀ number, ¬ Denotes radix text.toList number) ∧
    (∀ number, (readDecimal text).value = .ok number ↔
      Denotes 10 text.toList number) ∧
    ((readDecimal text).value = .error (.malformedLiteral text) ↔
      ∀ number, ¬ Denotes 10 text.toList number) ∧
    (∀ conversion : Conversion, conversion.IsPositional →
      readBy conversion radix text = read radix text) := by
  have isRadix : IsRadix 10 := by decide
  refine ⟨?_, fun number => value_read_eq_ok_iff, ?_,
    fun number => value_readDecimal_eq_ok_iff, ?_,
    fun conversion isPositional => readBy_eq_read isPositional radix text⟩
  · simp [value_read_eq_error_iff, IsRadix]
  · simp [value_read_eq_error_iff, IsRadix]
  · simp [readDecimal, value_read_eq_error_iff, isRadix]

/-- A conversion that passes over underscores. -/
def Conversion.lenient : Conversion :=
  fun radix digits => convert radix (digits.filter (· ≠ '_'))

theorem Conversion.lenient_isPositional : Conversion.lenient.IsPositional := by
  intro radix digits values isRadix nonempty counted
  have kept : digits.filter (· ≠ '_') = digits := by
    rw [List.filter_eq_self]
    intro character belongs
    have counts := exists_counted_iff.mp ⟨values, counted⟩ character belongs
    obtain ⟨value, counts⟩ := Digit.belongsTo_iff_counts.mp counts
    have unequal : character ≠ '_' := counts.ne_of_value?_eq_none rfl
    simpa using unequal
  rw [Conversion.lenient, kept]
  exact convert_isPositional isRadix nonempty counted

/-- Underscores are refused even if the conversion passes over them. -/
theorem read_classification_lenient :
    Conversion.lenient.IsPositional ∧
      Conversion.lenient 10 "1_000".toList = some 1000 ∧
        readBy Conversion.lenient 10 "1_000" = read 10 "1_000" ∧
          (read 10 "1_000").value = .error (.malformedLiteral "1_000") := by
  have classified := read_classification 10 "1_000"
  exact ⟨Conversion.lenient_isPositional, by decide,
    classified.2.2.2.2.2 Conversion.lenient Conversion.lenient_isPositional,
    by decide⟩

example : (read 16 "-fF").value = .ok (-255) := by
  decide

end Literal

end ExactInteger
