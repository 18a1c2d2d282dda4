import ExactInteger.Proofs.FirstCharacters
import ExactInteger.Proofs.LiteralGrammar
import ExactInteger.Proofs.Segmentation

/-!
# Splitting and converting

Splitting scans the characters after the sign and stops at the first that is no digit;
conversion is then given the digits alone.  So whatever splitting accepts is converted, by
any conversion that accepts digits at all, and what it refuses is told with the first
character that is wrong.  The sign is looked for in the first byte of a text: taking it
off leaves the encoding of the characters that follow.
-/

namespace ExactInteger

namespace Text

theorem head?_eq_of_head?_encode {text : List Char} {character : Char} {byte : UInt8}
    (ascii : byte.toNat < 0x80) (isCode : character.toNat = byte.toNat)
    (first : (encode text).head? = some byte) : text.head? = some character := by
  cases text with
  | nil => cases first
  | cons head rest =>
      obtain ⟨leading, others, encoded⟩ : ∃ leading others,
          String.utf8EncodeChar head = leading :: others :=
        List.exists_cons_of_ne_nil String.utf8EncodeChar_ne_nil
      have firstByte : leading = byte := by
        rw [encode, List.flatMap_cons, encoded] at first
        exact Option.some.inj first
      have member : byte ∈ String.utf8EncodeChar head := by
        rw [encoded, firstByte]
        exact List.mem_cons_self
      have sameCode : head.toNat = character.toNat :=
        (toNat_eq_of_mem_utf8EncodeChar ascii member).trans isCode.symm
      rw [List.head?_cons, Char.toNat_inj.mp sameCode]

end Text

namespace Literal

/-! ## The sign -/

/-- A text begins with a sign, or with neither of the two, and the rest follows. -/
structure Begins (text : List Char) (sign : Sign) (rest : List Char) : Prop where
  written : text = sign.characters ++ rest
  absent : sign = .absent → text.head? ≠ some '-' ∧ text.head? ≠ some '+'

theorem exists_begins (text : List Char) :
    ∃ sign rest, Begins text sign rest ∧ takeSign text = sign.before rest := by
  rw [takeSign.eq_def]
  split
  next rest =>
    refine ⟨.minus, rest, ⟨rfl, fun absent => ?_⟩, rfl⟩
    cases absent
  next rest =>
    refine ⟨.plus, rest, ⟨rfl, fun absent => ?_⟩, rfl⟩
    cases absent
  next noMinus noPlus =>
    refine ⟨.absent, text, ⟨rfl, fun _ => ⟨?_, ?_⟩⟩, rfl⟩
    · intro isMinus
      obtain ⟨rest, rfl⟩ := List.head?_eq_some_iff.mp isMinus
      exact noMinus rest rfl
    · intro isPlus
      obtain ⟨rest, rfl⟩ := List.head?_eq_some_iff.mp isPlus
      exact noPlus rest rfl

theorem Begins.rest_eq_nil_iff {text rest : List Char} {sign : Sign}
    (begins : Begins text sign rest) :
    rest = [] ↔ text = [] ∨ text = ['+'] ∨ text = ['-'] := by
  obtain ⟨rfl, absent⟩ := begins
  cases sign with
  | minus => simp [Sign.characters]
  | plus => simp [Sign.characters]
  | absent =>
      obtain ⟨noMinus, noPlus⟩ := absent rfl
      constructor
      · exact Or.inl
      · rintro (isEmpty | isPlus | isMinus)
        · exact isEmpty
        · exact absurd (congrArg List.head? isPlus) noPlus
        · exact absurd (congrArg List.head? isMinus) noMinus

/-- Takes a sign off the bytes of a text, of which the first is looked at. -/
def takeSignByte (bytes : Bytes) : Bool × Bytes :=
  if bytes.head? = some 0x2D then (true, bytes.drop 1)
  else if bytes.head? = some 0x2B then (false, bytes.drop 1)
  else (false, bytes)

/-- No character is cut: what is left is the encoding of the characters after the sign. -/
theorem takeSignByte_encode (text : List Char) :
    takeSignByte (Text.encode text) =
      ((takeSign text).negative, Text.encode (takeSign text).digits) := by
  obtain ⟨sign, rest, begins, taken⟩ := exists_begins text
  obtain ⟨rfl, absent⟩ := begins
  rw [taken]
  cases sign with
  | minus => rfl
  | plus => rfl
  | absent =>
      obtain ⟨noMinus, noPlus⟩ := absent rfl
      have notMinusByte : (Text.encode rest).head? ≠ some 0x2D := fun first =>
        noMinus (Text.head?_eq_of_head?_encode (by decide) rfl first)
      have notPlusByte : (Text.encode rest).head? ≠ some 0x2B := fun first =>
        noPlus (Text.head?_eq_of_head?_encode (by decide) rfl first)
      exact (if_neg notMinusByte).trans (if_neg notPlusByte)

/-! ## What is wrong with digits -/

/-- A character is the first of a text that is no digit of a radix. -/
def IsFirstWrong (radix : Nat) (text : List Char) (character : Char) : Prop :=
  ∃ before after, text = before ++ character :: after ∧
    (∀ earlier ∈ before, ∃ value, Digit.Counts radix earlier value) ∧
      ∀ value, ¬ Digit.Counts radix character value

theorem IsFirstWrong.ne_nil {radix : Nat} {text : List Char} {character : Char}
    (isFirst : IsFirstWrong radix text character) : text ≠ [] := by
  obtain ⟨before, after, rfl, -⟩ := isFirst
  simp

/-- Digits are refused if there are none, or because of the first character that is
wrong. -/
theorem cases_of_digitError? {radix : Nat} {digits : List Char} {error : SplitError}
    (refused : digitError? radix digits = some error) :
    (error = .missingDigits ∧ digits = []) ∨
      ∃ character, error = .invalidDigit radix character ∧
        IsFirstWrong radix digits character := by
  rw [digitError?] at refused
  split at refused
  next isEmpty => exact Or.inl ⟨(Option.some.inj refused).symm, List.isEmpty_iff.mp isEmpty⟩
  next =>
    obtain ⟨character, found, rfl⟩ := Option.map_eq_some_iff.mp refused
    obtain ⟨wrong, before, after, cut, passed⟩ := List.find?_eq_some_iff_append.mp found
    refine Or.inr ⟨character, rfl, before, after, cut, fun earlier member => ?_,
      fun value counts => ?_⟩
    · exact Digit.belongsTo_iff_counts.mp (by simpa using passed earlier member)
    · have belongs := Digit.belongsTo_iff_counts.mpr ⟨value, counts⟩
      simp [belongs] at wrong

/-! ## What is said about it -/

theorem SplitError.head?_message {error : SplitError} (other : error ≠ .missingDigits) :
    error.message.toList.head? = some 'I' := by
  cases error with
  | missingDigits => exact absurd rfl other
  | invalidRadix radix =>
      have first : "Invalid base ".toList.head? = some 'I' := by decide
      have messageEq : (invalidRadix radix).message =
          "Invalid base " ++ (Decimal.ofNat radix ++ ".") :=
        String.append_assoc
      rw [messageEq, Text.head?_toList_append first]
  | invalidDigit radix character =>
      have first : "Invalid digit for base ".toList.head? = some 'I' := by decide
      have messageEq : (invalidDigit radix character).message =
          "Invalid digit for base " ++
            (Decimal.ofNat radix ++ (": " ++ String.singleton character)) := by
        rw [message.eq_def]
        simp only [String.append_assoc]
      rw [messageEq, Text.head?_toList_append first]

/-- What is said tells whether digits are missing. -/
theorem SplitError.message_eq_missingDigits_iff {error : SplitError} :
    error.message = "Missing digits." ↔ error = .missingDigits := by
  constructor
  · intro same
    have isMissing : error.message.toList.head? = some 'M' := by
      rw [same]
      decide
    by_contra other
    rw [head?_message other] at isMissing
    cases isMissing
  · rintro rfl
    rfl

/-! ## Splitting -/

variable {radix : Nat}

/-- A text is refused for what is wrong after its sign. -/
theorem cases_of_split_error (isRadix : IsRadix radix) {text : List Char}
    {error : SplitError} (refused : split radix text = .error error) :
    ∃ sign rest, Begins text sign rest ∧
      ((error = .missingDigits ∧ rest = []) ∨
        ∃ character, error = .invalidDigit radix character ∧
          IsFirstWrong radix rest character) := by
  obtain ⟨sign, rest, begins, taken⟩ := exists_begins text
  refine ⟨sign, rest, begins, cases_of_digitError? ?_⟩
  rw [split, if_pos isRadix, taken] at refused
  split at refused
  next other found =>
    cases refused
    exact found
  next => cases refused

/-- A conversion accepts one or more digits.  Which number it makes of them, and what it
does to other texts, is left open. -/
def Conversion.AcceptsDigits (conversion : Conversion) : Prop :=
  ∀ {radix : Nat} {digits : List Char}, IsRadix radix → digits ≠ [] →
    (∀ character ∈ digits, ∃ value, Digit.Counts radix character value) →
      ∃ number, conversion radix digits = some number

theorem Conversion.IsPositional.acceptsDigits {conversion : Conversion}
    (isPositional : conversion.IsPositional) : conversion.AcceptsDigits := by
  intro radix digits isRadix nonempty counted
  obtain ⟨values, counted⟩ := exists_forall₂_iff.mpr counted
  exact ⟨_, isPositional isRadix nonempty counted⟩

theorem valueBy_of_split_error (conversion : Conversion) {text : List Char}
    {error : SplitError} (refused : split radix text = .error error) :
    valueBy conversion radix text = .error (.split error) := by
  rw [valueBy, refused]

/-- Whatever splitting accepts has a value. -/
theorem exists_valueBy_of_split_ok {conversion : Conversion}
    (acceptsDigits : conversion.AcceptsDigits) {text : List Char} {parts : Parts}
    (accepted : split radix text = .ok parts) :
    ∃ number, valueBy conversion radix text = .ok number := by
  obtain ⟨isRadix, sign, digits, values, -, rfl, nonempty, counted⟩ :=
    split_eq_ok_iff.mp accepted
  obtain ⟨magnitude, converted⟩ :=
    acceptsDigits isRadix nonempty (exists_forall₂_iff.mp ⟨values, counted⟩)
  have converted : conversion radix (sign.before digits).digits = some magnitude := converted
  rw [valueBy, accepted]
  simp only [converted]
  exact ⟨_, rfl⟩

/-- Splitting and reading accept the same texts. -/
theorem exists_split_ok_iff {conversion : Conversion}
    (acceptsDigits : conversion.AcceptsDigits) (isRadix : IsRadix radix) (text : String) :
    (∃ parts, split radix text.toList = .ok parts) ↔
      ∃ number, (readBy conversion radix text).value = .ok number := by
  rw [readBy, if_pos isRadix]
  cases cut : split radix text.toList with
  | error error =>
      rw [valueBy_of_split_error conversion cut]
      simp
  | ok parts =>
      obtain ⟨number, valued⟩ := exists_valueBy_of_split_ok acceptsDigits cut
      rw [valued]
      simp

theorem valueBy_ne_unconverted {conversion : Conversion}
    (acceptsDigits : conversion.AcceptsDigits) (text : List Char) :
    valueBy conversion radix text ≠ .error .unconverted := by
  intro unconverted
  cases cut : split radix text with
  | error error =>
      rw [valueBy_of_split_error conversion cut] at unconverted
      cases unconverted
  | ok parts =>
      obtain ⟨number, valued⟩ := exists_valueBy_of_split_ok acceptsDigits cut
      rw [valued] at unconverted
      cases unconverted

/-- Splitting and converting agree.  Splitting accepts the texts that are read, and gives
back their digits as they are written, after a sign of which it keeps whether it is a
minus; a conversion is never given anything that it refuses.  When splitting refuses a
text, either there is nothing after the sign, or the character that is named is the first
there that is no digit.  In UTF-8, taking the sign off the bytes of a text leaves a
text. -/
theorem split_agrees_with_conversion {conversion : Conversion}
    (acceptsDigits : conversion.AcceptsDigits) (isRadix : 2 ≤ radix ∧ radix ≤ 36)
    (text : String) :
    ((∃ parts, split radix text.toList = .ok parts) ↔
      ∃ number, (readBy conversion radix text).value = .ok number) ∧
    (∀ parts, split radix text.toList = .ok parts →
      ∃ sign : Sign, text.toList = sign.characters ++ parts.digits ∧
        (parts.negative = true ↔ sign = .minus)) ∧
    valueBy conversion radix text.toList ≠ .error .unconverted ∧
    (∀ error, split radix text.toList = .error error →
      (error.message = "Missing digits." ↔ text = "" ∨ text = "+" ∨ text = "-") ∧
      (error.message ≠ "Missing digits." →
        ∃ sign rest character, Begins text.toList sign rest ∧
          IsFirstWrong radix rest character ∧
            error.message = "Invalid digit for base " ++ Decimal.ofNat radix ++ ": " ++
              String.singleton character)) ∧
    ∃ bytes, takeSignByte (Text.encode text.toList) =
        ((takeSign text.toList).negative, bytes) ∧
      Text.decode? bytes = some (takeSign text.toList).digits := by
  refine ⟨exists_split_ok_iff acceptsDigits isRadix text, ?_,
    valueBy_ne_unconverted acceptsDigits text.toList, ?_, _, takeSignByte_encode text.toList,
    Text.decode?_encode _⟩
  · intro parts accepted
    obtain ⟨-, sign, digits, -, written, rfl, -⟩ := split_eq_ok_iff.mp accepted
    exact ⟨sign, written, by cases sign <;> simp [Sign.before]⟩
  · intro error refused
    have noDigits_iff : text = "" ∨ text = "+" ∨ text = "-" ↔
        text.toList = [] ∨ text.toList = ['+'] ∨ text.toList = ['-'] := by
      simp only [← String.toList_inj]
      rfl
    obtain ⟨sign, rest, begins, ⟨rfl, missing⟩ | ⟨character, rfl, isFirst⟩⟩ :=
      cases_of_split_error isRadix refused
    · rw [noDigits_iff, ← begins.rest_eq_nil_iff]
      exact ⟨iff_of_true rfl missing, fun other => absurd rfl other⟩
    · have other : SplitError.invalidDigit radix character ≠ .missingDigits := by
        intro same
        cases same
      rw [noDigits_iff, ← begins.rest_eq_nil_iff, SplitError.message_eq_missingDigits_iff]
      exact ⟨iff_of_false other isFirst.ne_nil,
        fun _ => ⟨sign, rest, character, begins, isFirst, rfl⟩⟩

/-- A conversion that passes over underscores is not given any, and the first character
that is wrong is the underscore and not the letter after it. -/
theorem split_agrees_with_conversion_lenient :
    Conversion.lenient.AcceptsDigits ∧
      Conversion.lenient 10 "1_0".toList = some 10 ∧
      split 10 "-1_0\u00e9".toList = .error (.invalidDigit 10 '_') ∧
      (∃ sign rest character, Begins "-1_0\u00e9".toList sign rest ∧
        IsFirstWrong 10 rest character ∧
          "Invalid digit for base 10: _" = "Invalid digit for base " ++ Decimal.ofNat 10 ++
            ": " ++ String.singleton character) ∧
      ∃ number, (readBy Conversion.lenient 16 "-fF").value = .ok number := by
  have acceptsDigits : Conversion.lenient.AcceptsDigits :=
    Conversion.lenient_isPositional.acceptsDigits
  have refused : split 10 "-1_0\u00e9".toList = .error (.invalidDigit 10 '_') := by decide
  have accepted : split 16 "-fF".toList = .ok ⟨true, "fF".toList⟩ := by decide
  have decimal : 2 ≤ 10 ∧ 10 ≤ 36 := by decide
  have hexadecimal : 2 ≤ 16 ∧ 16 ≤ 36 := by decide
  obtain ⟨-, -, -, errors, -⟩ :=
    split_agrees_with_conversion acceptsDigits decimal "-1_0\u00e9"
  obtain ⟨sameTexts, -⟩ := split_agrees_with_conversion acceptsDigits hexadecimal "-fF"
  obtain ⟨-, named⟩ := errors _ refused
  exact ⟨acceptsDigits, by decide, refused, named (by decide), sameTexts.mp ⟨_, accepted⟩⟩

end Literal

end ExactInteger
