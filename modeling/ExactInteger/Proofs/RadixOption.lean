import ExactInteger.Proofs.BoundedNumeral
import ExactInteger.Proofs.OptionArguments
import ExactInteger.Proofs.UsageMessages

/-!
# The radix option

The value of the radix option is read as a numeral of 32 bits, and literals are read as
integers of any size.  Both readers agree on the numbers that are a radix, so the option
is accepted exactly with the literals that denote one.  Any other value is refused, and
the message says in which of four ways it is wrong.
-/

namespace ExactInteger

namespace CommandLine

variable {text : String} {radix : Nat}

/-- What the reader of the option does with a value, by what the value reads as. -/
theorem readRadix_cases (text : String) :
    (∃ error, Word32.read text.toList = .error error ∧
      readRadix (some text) = .error (.radixText error)) ∨
    (∃ number, Word32.read text.toList = .ok number ∧ Literal.IsRadix number ∧
      readRadix (some text) = .ok number) ∨
    (∃ number, Word32.read text.toList = .ok number ∧ ¬ Literal.IsRadix number ∧
      readRadix (some text) = .error (.radixRange number)) := by
  rw [readRadix]
  cases Word32.read text.toList with
  | error error => exact Or.inl ⟨error, rfl, rfl⟩
  | ok number =>
      refine Or.inr ?_
      by_cases isRadix : Literal.IsRadix number
      · exact Or.inl ⟨number, rfl, isRadix, if_pos isRadix⟩
      · exact Or.inr ⟨number, rfl, isRadix, if_neg isRadix⟩

theorem readRadix_eq_ok_iff :
    readRadix (some text) = .ok radix ↔
      Word32.Spells text.toList radix ∧ Literal.IsRadix radix := by
  have fits (isRadix : Literal.IsRadix radix) : radix < 2 ^ 32 :=
    Nat.lt_of_le_of_lt isRadix.2 (by decide)
  have isRead_iff : Word32.Spells text.toList radix ∧ Literal.IsRadix radix ↔
      Word32.read text.toList = .ok radix ∧ Literal.IsRadix radix := by
    rw [Word32.read_eq_ok_iff]
    exact and_congr_left fun isRadix => (and_iff_left (fits isRadix)).symm
  rw [isRead_iff]
  rcases readRadix_cases text with ⟨error, isRead, refused⟩ |
    ⟨number, isRead, isRadix, accepted⟩ | ⟨number, isRead, noRadix, refused⟩
  · simp [isRead, refused]
  · rw [isRead, accepted]
    constructor
    · rintro ⟨⟩
      exact ⟨rfl, isRadix⟩
    · rintro ⟨⟨⟩, -⟩
      rfl
  · rw [isRead, refused]
    constructor
    · rintro ⟨⟩
    · rintro ⟨⟨⟩, isRadix⟩
      exact absurd isRadix noRadix

theorem readRadix_eq_radixText_iff {error : Word32.Error} :
    readRadix (some text) = .error (.radixText error) ↔
      Word32.read text.toList = .error error := by
  rcases readRadix_cases text with ⟨other, isRead, refused⟩ |
    ⟨number, isRead, -, accepted⟩ | ⟨number, isRead, -, refused⟩
  · simp [isRead, refused]
  · simp [isRead, accepted]
  · simp [isRead, refused]

theorem readRadix_eq_radixRange_iff :
    readRadix (some text) = .error (.radixRange radix) ↔
      Word32.Spells text.toList radix ∧ radix < 2 ^ 32 ∧ ¬ Literal.IsRadix radix := by
  rw [← and_assoc, ← Word32.read_eq_ok_iff]
  rcases readRadix_cases text with ⟨error, isRead, refused⟩ |
    ⟨number, isRead, isRadix, accepted⟩ | ⟨number, isRead, noRadix, refused⟩
  · simp [isRead, refused]
  · rw [isRead, accepted]
    constructor
    · rintro ⟨⟩
    · rintro ⟨⟨⟩, noRadix⟩
      exact absurd isRadix noRadix
  · rw [isRead, refused]
    constructor
    · rintro ⟨⟩
      exact ⟨rfl, noRadix⟩
    · rintro ⟨⟨⟩, -⟩
      rfl

/-- A literal denotes a radix exactly if it is a numeral of it. -/
theorem value_readDecimal_eq_radix_iff :
    (Literal.readDecimal text).value = .ok (radix : Int) ∧ Literal.IsRadix radix ↔
      Word32.Spells text.toList radix ∧ Literal.IsRadix radix := by
  refine and_congr_left fun isRadix => ?_
  have positive : 0 < radix := Nat.lt_of_lt_of_le (by decide) isRadix.1
  rw [Literal.value_readDecimal_eq_ok_iff, Word32.denotes_iff_spells positive]

/-- What a run is told by its radix alone. -/
def optionsOfRadix (radix : Nat) : Options :=
  { readline := true
    inputFile := none
    historyFile := Options.defaultHistoryFile
    radix }

theorem parse_radixArgument (noEquals : text.toList.head? ≠ some '=') :
    parse ["--radix=" ++ text] =
      (readRadix (some text)).map fun radix => .session (optionsOfRadix radix) := by
  have written : "--radix=" ++ text = "--" ++ ValueOption.radix.name ++ "=" ++ text := by
    have name : "--radix=" = "--" ++ ValueOption.radix.name ++ "=" := by decide
    rw [name]
  have scanned : Scan.ofArguments ["--radix=" ++ text] =
      .ok (Scan.empty.option .radix (some text.toList)) := by
    rw [Scan.ofArguments, List.foldlM_cons, written,
      Scan.argument_name_equals Bool.false_ne_true .radix noEquals]
    rfl
  have value : (Scan.empty.option .radix (some text.toList)).radix.value = some text :=
    congrArg some String.ofList_toList
  rw [parse_of_scan scanned, Scan.options_of_once rfl, value]
  cases readRadix (some text) <;> rfl

theorem parse_radixArgument_eq_ok_iff (noEquals : text.toList.head? ≠ some '=')
    (options : Options) :
    parse ["--radix=" ++ text] = .ok (.session options) ↔
      ∃ radix : Nat, (Literal.readDecimal text).value = .ok (radix : Int) ∧
        Literal.IsRadix radix ∧ options = optionsOfRadix radix := by
  simp only [← and_assoc, value_readDecimal_eq_radix_iff, ← readRadix_eq_ok_iff]
  rw [parse_radixArgument noEquals]
  cases readRadix (some text) with
  | error error => simp [Except.map]
  | ok radix => simp [Except.map, eq_comm]

theorem refused_radixArgument_iff (noEquals : text.toList.head? ≠ some '=')
    (error : UsageError) :
    Refused ["--radix=" ++ text] error.message ↔ readRadix (some text) = .error error := by
  rw [refused_message_iff, parse_radixArgument noEquals]
  cases readRadix (some text) with
  | error other => simp [Except.map]
  | ok radix => simp [Except.map]

/-- The radix option is accepted exactly with a value that reads as an integer from 2 to
36, which is the radix then.  Otherwise the value is refused: if it is empty, if digits
at its start stand for a number of more than 32 bits, if it is the numeral of another
number, and in all other cases as a text that is no numeral. -/
theorem radixArgument_classification (noEquals : text.toList.head? ≠ some '=') :
    (∀ options, parse ["--radix=" ++ text] = .ok (.session options) ↔
      ∃ radix : Nat, (Literal.readDecimal text).value = .ok (radix : Int) ∧
        (2 ≤ radix ∧ radix ≤ 36) ∧
        options = { readline := true, inputFile := none, historyFile := "history.txt", radix }) ∧
    (Refused ["--radix=" ++ text] "invalid radix: cannot parse integer from empty string" ↔
      text = "") ∧
    (Refused ["--radix=" ++ text]
        "invalid radix: number too large to fit in target type" ↔
      Word32.Exceeds text.toList) ∧
    (∀ number, Refused ["--radix=" ++ text]
        ("invalid radix " ++ Decimal.ofNat number ++ ", expecting 2 to 36") ↔
      Word32.Spells text.toList number ∧ number < 2 ^ 32 ∧ ¬(2 ≤ number ∧ number ≤ 36)) ∧
    (Refused ["--radix=" ++ text] "invalid radix: invalid digit found in string" ↔
      (∀ options, parse ["--radix=" ++ text] ≠ .ok (.session options)) ∧ text ≠ "" ∧
        ¬ Word32.Exceeds text.toList ∧
        ∀ number, ¬(Word32.Spells text.toList number ∧ number < 2 ^ 32 ∧
          ¬(2 ≤ number ∧ number ≤ 36))) := by
  have textError (error : Word32.Error) :
      Refused ["--radix=" ++ text] ("invalid radix: " ++ error.message) ↔
        Word32.read text.toList = .error error :=
    (refused_radixArgument_iff noEquals (.radixText error)).trans
      readRadix_eq_radixText_iff
  have isEmpty : text.toList = [] ↔ text = "" := String.toList_eq_nil_iff
  have outOfRange (number : Nat) :
      Refused ["--radix=" ++ text]
          ("invalid radix " ++ Decimal.ofNat number ++ ", expecting 2 to 36") ↔
        Word32.Spells text.toList number ∧ number < 2 ^ 32 ∧ ¬(2 ≤ number ∧ number ≤ 36) :=
    (refused_radixArgument_iff noEquals (.radixRange number)).trans
      readRadix_eq_radixRange_iff
  have accepted_iff := parse_radixArgument_eq_ok_iff noEquals
  refine ⟨accepted_iff, (textError .empty).trans (Word32.read_eq_empty_iff.trans isEmpty),
    (textError .overflow).trans Word32.read_eq_overflow_iff, outOfRange,
    (textError .invalidDigit).trans ?_⟩
  rw [Word32.read_eq_invalidDigit_iff, Ne, isEmpty]
  constructor
  · rintro ⟨nonempty, fits, noNumeral⟩
    refine ⟨fun options accepted => ?_, nonempty, fits, fun number outside =>
      noNumeral number ⟨outside.1, outside.2.1⟩⟩
    obtain ⟨radix, isRead, isRadix, -⟩ := (accepted_iff options).mp accepted
    have spells := (value_readDecimal_eq_radix_iff.mp ⟨isRead, isRadix⟩).1
    exact noNumeral radix ⟨spells, Nat.lt_of_le_of_lt isRadix.2 (by decide)⟩
  · rintro ⟨refused, nonempty, fits, noneOutside⟩
    refine ⟨nonempty, fits, fun number ⟨spells, small⟩ => ?_⟩
    by_cases isRadix : Literal.IsRadix number
    · have isRead := (value_readDecimal_eq_radix_iff.mpr ⟨spells, isRadix⟩).1
      exact refused _ ((accepted_iff _).mpr ⟨number, isRead, isRadix, rfl⟩)
    · exact noneOutside number ⟨spells, small, isRadix⟩

/-- The number is too large before the letter is met, and zeros in front of a number do
not make it large. -/
theorem radixArgument_classification_late_letter :
    ("4294967296x".toList.head? ≠ some '=' ∧ "+0000000000016".toList.head? ≠ some '=') ∧
      Refused ["--radix=4294967296x"]
        "invalid radix: number too large to fit in target type" ∧
      ∃ options, parse ["--radix=+0000000000016"] = .ok (.session options) ∧
        options.radix = 16 := by
  have late : "4294967296x".toList.head? ≠ some '=' := by decide
  have padded : "+0000000000016".toList.head? ≠ some '=' := by decide
  obtain ⟨-, -, tooLarge, -⟩ := radixArgument_classification late
  obtain ⟨accepted, -⟩ := radixArgument_classification padded
  have exceeds : Word32.Exceeds "4294967296x".toList :=
    Word32.read_eq_overflow_iff.mp (by decide)
  exact ⟨⟨late, padded⟩, tooLarge.mpr exceeds, _,
    (accepted _).mpr ⟨16, by decide, by decide, rfl⟩, rfl⟩

end CommandLine

end ExactInteger
