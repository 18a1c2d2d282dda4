import ExactInteger.Proofs.SameEcho
import ExactInteger.Proofs.SourceAgreement

/-!
# The program on its own output

A text of literals is echoed as the decimal numbers that its literals denote, one
on each line.  Decimal numbers hold no white space, so the tokens of that output
are its lines, and each of them is a literal that is echoed as itself.  Hence the
output of a run on literals of any radix, given back as decimal input, is printed
again without a change.
-/

namespace ExactInteger

namespace Text

theorem isWhiteSpace_of_isDigit {character : Char} (isDigit : character.isDigit = true) :
    isWhiteSpace character = false := by
  obtain ⟨lower, upper⟩ : 48 ≤ character.toNat ∧ character.toNat ≤ 57 :=
    Char.isDigit_iff_toNat.mp isDigit
  simp [isWhiteSpace, whiteSpaceRanges]
  omega

/-- Lines that are solid, without any white space, are the tokens of the text they are
written as. -/
theorem tokens_unlines {lines : List String}
    (solid : ∀ line ∈ lines, line ≠ "" ∧
      ∀ character ∈ line.toList, isWhiteSpace character = false) :
    tokens (unlines lines).toList = lines.map String.toList := by
  induction lines with
  | nil => simp
  | cons line lines ih =>
      rw [List.forall_mem_cons] at solid
      obtain ⟨⟨nonempty, noBlank⟩, solid⟩ := solid
      have written : (unlines (line :: lines)).toList =
          line.toList ++ '\n' :: (unlines lines).toList := by
        simp [unlines]
      have isToken : tokens line.toList = [line.toList] :=
        tokens_eq_singleton (by simpa using nonempty) noBlank
      rw [written, tokens_append_cons isWhiteSpace_lineFeed, isToken, ih solid,
        List.map_cons, List.singleton_append]

end Text

namespace Decimal

theorem ofInt_ne_empty (number : Int) : ofInt number ≠ "" := by
  intro empty
  have denotes := value_readDecimal_ofInt number
  rw [empty] at denotes
  cases denotes

theorem isWhiteSpace_of_mem_characters {number : Int} {character : Char}
    (member : character ∈ characters number) : Text.isWhiteSpace character = false := by
  rcases (isCanonical_characters number).eq_minus_or_isDigit member with rfl | isDigit
  · decide
  · exact Text.isWhiteSpace_of_isDigit isDigit

/-- The tokens of decimal numbers, one on each line, are the numbers. -/
theorem tokens_unlines_ofInt (numbers : List Int) :
    Text.tokens (Text.unlines (numbers.map ofInt)).toList = numbers.map characters := by
  have solid : ∀ line ∈ numbers.map ofInt, line ≠ "" ∧
      ∀ character ∈ line.toList, Text.isWhiteSpace character = false := by
    intro line member
    obtain ⟨number, -, rfl⟩ := List.mem_map.mp member
    refine ⟨ofInt_ne_empty number, fun character inLine => ?_⟩
    rw [toList_ofInt] at inLine
    exact isWhiteSpace_of_mem_characters inLine
  rw [Text.tokens_unlines solid, List.map_map]
  simp only [Function.comp_def, toList_ofInt]

end Decimal

/-! ## Echoes of literals -/

/-- Literals are echoed as the numbers they denote, in decimal. -/
theorem value_echo_of_denoted {radix : Nat} {text : List Char} {numbers : List Int}
    (isRadix : Literal.IsRadix radix)
    (denoted : List.Forall₂ (Literal.Denotes radix) (Text.tokens text) numbers) :
    (echo radix text).value = numbers.map Decimal.ofInt := by
  rw [value_echo]
  -- Of the text, only the tokens matter from here on.
  generalize Text.tokens text = tokens at denoted
  induction denoted with
  | nil => rfl
  | cons denotes denoted ih =>
      rw [List.map_cons, List.map_cons, ih, outcomeText_read_of_denotes isRadix denotes]

/-- Decimal numbers, one on each line, are echoed as themselves. -/
theorem value_echo_unlines_ofInt (numbers : List Int) :
    (echo 10 (Text.unlines (numbers.map Decimal.ofInt)).toList).value =
      numbers.map Decimal.ofInt := by
  apply value_echo_of_denoted (by decide)
  rw [Decimal.tokens_unlines_ofInt, List.forall₂_map_left_iff, List.forall₂_same]
  exact fun number _ => Decimal.denotes_characters number

/-! ## Runs on output -/

namespace Program

variable {arguments argumentsAgain : List String} {options optionsAgain : Options}
variable {files filesAgain : FileStore} {path pathAgain : String}
variable (input inputAgain : Bytes)

/-- A run on a file of literals succeeds, and so does a run that is given the output as
a file of decimal literals.  It prints that output again. -/
theorem run_reproduces_output {bytes : Bytes} {text : List Char}
    (parsed : CommandLine.parse arguments = .ok (.session options))
    (inputFile : options.inputFile = some path)
    (contents : files.read path = .ok bytes)
    (decoded : Text.decode? bytes = some text)
    (literals : ∀ token ∈ Text.tokens text,
      ∃ number, Literal.Denotes options.radix token number)
    (parsedAgain : CommandLine.parse argumentsAgain = .ok (.session optionsAgain))
    (inputFileAgain : optionsAgain.inputFile = some pathAgain)
    (decimal : optionsAgain.radix = 10)
    (contentsAgain : filesAgain.read pathAgain =
      .ok (Text.encode (run arguments files input).value.stdout.toList)) :
    (run arguments files input).value.failure = none ∧
      (run argumentsAgain filesAgain inputAgain).value.failure = none ∧
      (run argumentsAgain filesAgain inputAgain).value.stdout =
        (run arguments files input).value.stdout := by
  rw [Text.decode?_eq_some_iff.mp decoded] at contents
  obtain ⟨succeeded, printed⟩ := run_of_inputText input parsed inputFile contents
  obtain ⟨succeededAgain, printedAgain⟩ :=
    run_of_inputText inputAgain parsedAgain inputFileAgain contentsAgain
  obtain ⟨numbers, denoted⟩ := exists_forall₂_iff.mpr literals
  have isRadix := CommandLine.isRadix_of_parse parsed
  refine ⟨succeeded, succeededAgain, ?_⟩
  rw [printedAgain, decimal, printed, value_echo_of_denoted isRadix denoted,
    value_echo_unlines_ofInt]

theorem run_reproduces_output_hexadecimal :
    (run ["--radix", "16", "in"]
        (.ofEntries [(["in"], .file (Text.encode "fF\r\n\r -0\u2028+1\u0085".toList))])
        []).value.stdout = "255\n0\n1\n" ∧
      (run ["out"] (.ofEntries [(["out"], .file (Text.encode "255\n0\n1\n".toList))])
        []).value.stdout = "255\n0\n1\n" := by
  have parsed : CommandLine.parse ["--radix", "16", "in"] =
      .ok (.session ⟨true, some "in", "history.txt", 16⟩) := by
    decide
  have parsedAgain : CommandLine.parse ["out"] =
      .ok (.session ⟨true, some "out", "history.txt", 10⟩) := by
    decide
  have cut : Text.tokens "fF\r\n\r -0\u2028+1\u0085".toList =
      ["fF".toList, "-0".toList, "+1".toList] := by
    decide
  have literals : ∀ token ∈ Text.tokens "fF\r\n\r -0\u2028+1\u0085".toList,
      ∃ number, Literal.Denotes 16 token number := by
    have reads : ∀ token ∈ ["fF".toList, "-0".toList, "+1".toList],
        ∃ number ∈ [255, 0, 1],
          (Literal.read 16 (String.ofList token)).value = .ok number := by
      decide
    intro token member
    obtain ⟨number, -, valued⟩ := reads token (cut ▸ member)
    exact ⟨number, by simpa using (Literal.value_read_eq_ok_iff.mp valued).2⟩
  have printed : (run ["--radix", "16", "in"]
      (.ofEntries [(["in"], .file (Text.encode "fF\r\n\r -0\u2028+1\u0085".toList))])
      []).value.stdout = "255\n0\n1\n" := by
    decide
  have contentsAgain :
      FileStore.read (.ofEntries [(["out"], .file (Text.encode "255\n0\n1\n".toList))]) "out" =
        .ok (Text.encode (run ["--radix", "16", "in"]
          (.ofEntries [(["in"], .file (Text.encode "fF\r\n\r -0\u2028+1\u0085".toList))])
          []).value.stdout.toList) := by
    rw [printed]
    rfl
  obtain ⟨-, -, reproduced⟩ :=
    run_reproduces_output [] [] parsed rfl rfl (Text.decode?_encode _) literals
      parsedAgain rfl rfl contentsAgain
  exact ⟨printed, reproduced.trans printed⟩

end Program

end ExactInteger
