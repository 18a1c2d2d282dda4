import ExactInteger.Proofs.SameEcho
import ExactInteger.Proofs.SourceAgreement

/-!
# The line of a token

Options are accepted only with a radix that literals can be written in.  So a run
prints one line for each token that it reads: the decimal number that the token
denotes, or the token itself between backquotes after a notice that it is no
literal.  Tokens hold no white space, and so no line of the output is cut by one.
That the radix is out of its bounds is never reported, neither in the output nor
in the log.
-/

namespace ExactInteger

/-! ## Tokens -/

namespace Text

/-- A piece that was cut at white space holds none. -/
theorem isWhiteSpace_of_mem_splitOnP {text piece : List Char}
    (member : piece ∈ text.splitOnP isWhiteSpace) :
    ∀ character ∈ piece, isWhiteSpace character = false := by
  induction text generalizing piece with
  | nil =>
      rw [List.splitOnP_nil, List.mem_singleton] at member
      simp [member]
  | cons head text ih =>
      rw [List.splitOnP_cons_eq_if_modifyHead] at member
      split at member
      next blank =>
        rcases List.mem_cons.mp member with rfl | member
        · simp
        · exact ih member
      next solid =>
        obtain ⟨first, others, cut⟩ :=
          List.exists_cons_of_ne_nil (List.splitOnP_ne_nil isWhiteSpace text)
        rw [cut, List.modifyHead_cons] at member
        rcases List.mem_cons.mp member with rfl | member
        · exact List.forall_mem_cons.mpr
            ⟨by simpa using solid, ih (cut ▸ List.mem_cons_self)⟩
        · exact ih (cut ▸ List.mem_cons_of_mem first member)

theorem isWhiteSpace_of_mem_tokens {text token : List Char} (member : token ∈ tokens text) :
    ∀ character ∈ token, isWhiteSpace character = false :=
  isWhiteSpace_of_mem_splitOnP (List.mem_filter.mp member).1

theorem lineFeed_not_mem_of_mem_tokens {text token : List Char}
    (member : token ∈ tokens text) : '\n' ∉ token := by
  intro inToken
  have solid := isWhiteSpace_of_mem_tokens member '\n' inToken
  rw [isWhiteSpace_lineFeed] at solid
  cases solid

end Text

theorem Decimal.lineFeed_not_mem_characters (number : Int) : '\n' ∉ characters number := by
  intro member
  exact absurd ((isCanonical_characters number).eq_minus_or_isDigit member) (by decide)

/-! ## Reading with an admissible radix -/

namespace Literal

variable {radix number : Nat}

theorem split_ne_invalidRadix (isRadix : IsRadix radix) (text : List Char) :
    split radix text ≠ .error (.invalidRadix number) := by
  intro refused
  rw [split, if_pos isRadix, digitError?] at refused
  split at refused
  next error found =>
    cases refused
    split at found
    next => cases found
    next =>
      rw [Option.map_eq_some_iff] at found
      obtain ⟨character, -, impossible⟩ := found
      cases impossible
  next => cases refused

theorem value_read_ne_invalidRadix (isRadix : IsRadix radix) (text : String) :
    (read radix text).value ≠ .error (.invalidRadix number) := by
  intro refused
  rcases value_read_eq_error_iff.mp refused with ⟨noRadix, -⟩ | ⟨-, -, impossible⟩
  · exact noRadix isRadix
  · cases impossible

/-- A record that a text was refused as a literal, for another reason than that the
radix is out of its bounds. -/
def IsRefusalRecord (record : LogRecord) : Prop :=
  ∃ text refusal, record = refusalRecord text refusal ∧
    ∀ number, refusal ≠ .split (.invalidRadix number)

theorem isRefusalRecord_of_mem_log_read {record : LogRecord} {text : String}
    (member : record ∈ (read radix text).log) : IsRefusalRecord record := by
  rw [read, readBy] at member
  split at member
  next isRadix =>
    split at member
    next number valued => simp at member
    next refusal refused =>
      refine ⟨text, refusal, by simpa using member, ?_⟩
      rintro number rfl
      rw [valueBy] at refused
      split at refused
      next error cut =>
        cases refused
        exact split_ne_invalidRadix isRadix _ cut
      next => split at refused <;> cases refused
  next noRadix => simp at member

end Literal

/-! ## Lines -/

/-- A line that may be printed for a token. It is the canonical decimal text of the
number that the token denotes, or the refusal of a token that denotes none. -/
def IsTokenLine (radix : Nat) (token : List Char) (line : String) : Prop :=
  '\n' ∉ line.toList ∧
    ((∃ number, Literal.Denotes radix token number ∧
        Decimal.IsCanonical line.toList ∧ Literal.Denotes 10 line.toList number) ∨
      (∀ number, ¬ Literal.Denotes radix token number) ∧
        line = "error: malformed integer literal: `" ++ String.ofList token ++ "`")

theorem lineFeed_not_mem_refusal {token : String} (noLineFeed : '\n' ∉ token.toList) :
    '\n' ∉ ("error: malformed integer literal: `" ++ token ++ "`").toList := by
  rw [String.toList_append, String.toList_append, List.mem_append, List.mem_append]
  rintro ((inNotice | inToken) | inQuote)
  · exact absurd inNotice (by decide)
  · exact noLineFeed inToken
  · exact absurd inQuote (by decide)

theorem isTokenLine_outcomeText {radix : Nat} (isRadix : Literal.IsRadix radix)
    {token : List Char} (noLineFeed : '\n' ∉ token) :
    IsTokenLine radix token
      (outcomeText (Literal.read radix (String.ofList token)).value) := by
  by_cases literal : ∃ number, Literal.Denotes radix token number
  · obtain ⟨number, denotes⟩ := literal
    rw [outcomeText_read_of_denotes isRadix denotes, IsTokenLine, Decimal.toList_ofInt]
    exact ⟨Decimal.lineFeed_not_mem_characters number,
      Or.inl ⟨number, denotes, Decimal.isCanonical_characters number,
        Decimal.denotes_characters number⟩⟩
  · have malformed := not_exists.mp literal
    rw [outcomeText_read_of_malformed isRadix malformed]
    exact ⟨lineFeed_not_mem_refusal (by rwa [String.toList_ofList]), Or.inr ⟨malformed, rfl⟩⟩

theorem isRefusalRecord_of_mem_log_echo {radix : Nat} {text : List Char}
    {record : LogRecord} (member : record ∈ (echo radix text).log) :
    Literal.IsRefusalRecord record := by
  rw [echo, Logged.log_mapM] at member
  obtain ⟨token, -, member⟩ := List.mem_flatMap.mp member
  exact Literal.isRefusalRecord_of_mem_log_read member

/-! ## Readings -/

namespace Session

section Answers

variable {α : Type} {ofToken : List Char → α → Prop} {report : α}

/-- What may be answered to a reading: for each token of a line something that stands in
a relation to it, and a report for a reading that is no text. -/
inductive Answers (ofToken : List Char → α → Prop) (report : α) : Reading → List α → Prop
  | line {text : List Char} {answers : List α}
      (each : List.Forall₂ ofToken (Text.tokens text) answers) :
      Answers ofToken report (.line text) answers
  | undecodable : Answers ofToken report .undecodable [report]
  | endOfInput : Answers ofToken report .endOfInput []

/-- The answers to a reading, given the answer to every token. -/
def answersBy (toToken : List Char → α) (report : α) : Reading → List α
  | .line text => (Text.tokens text).map toToken
  | .undecodable => [report]
  | .endOfInput => []

theorem answers_answersBy {toToken : List Char → α}
    (each : ∀ text, ∀ token ∈ Text.tokens text, ofToken token (toToken token))
    (reading : Reading) :
    Answers ofToken report reading (answersBy toToken report reading) := by
  cases reading with
  | line text =>
      apply Answers.line
      rw [answersBy, List.forall₂_map_right_iff, List.forall₂_same]
      exact each text
  | undecodable => exact .undecodable
  | endOfInput => exact .endOfInput

/-- A list of readings is answered one by one. -/
theorem forall₂_answersBy {toToken : List Char → α}
    (each : ∀ text, ∀ token ∈ Text.tokens text, ofToken token (toToken token))
    (readings : List Reading) :
    List.Forall₂ (Answers ofToken report) readings
      (readings.map (answersBy toToken report)) := by
  rw [List.forall₂_map_right_iff, List.forall₂_same]
  exact fun reading _ => answers_answersBy each reading

end Answers

/-- A token is answered by its line, and a reading that is no text by a report. -/
theorem value_answer (radix : Nat) (reading : Reading) :
    (answer radix reading).value =
      answersBy (fun token => outcomeText (Literal.read radix (String.ofList token)).value)
        "Readline error: stream did not contain valid UTF-8" reading := by
  cases reading with
  | line text => exact value_echo radix text
  | undecodable => rfl
  | endOfInput => rfl

theorem isRefusalRecord_of_mem_log_run {radix : Nat} {source : LineSource}
    {record : LogRecord} (member : record ∈ (run radix source).log) :
    Literal.IsRefusalRecord record := by
  rw [run_eq, Logged.log_map, Logged.log_mapM] at member
  obtain ⟨reading, -, member⟩ := List.mem_flatMap.mp member
  cases reading with
  | line text => exact isRefusalRecord_of_mem_log_echo member
  | undecodable => simp [answer] at member
  | endOfInput => simp [answer] at member

end Session

/-! ## Runs -/

namespace Program

variable {arguments : List String} {options : Options} {files : FileStore} {input : Bytes}

theorem eq_unsavedRecord_of_mem_log_saveHistory {source : LineSource} {record : LogRecord}
    (member : record ∈ (saveHistory options files source).log) :
    ∃ error, record = unsavedRecord options.historyFile error := by
  rw [saveHistory] at member
  split at member
  next => simp at member
  next contents unsaved =>
    split at member
    next => simp at member
    next error failed => exact ⟨error, by simpa using member⟩

/-- What a run logs. -/
theorem cases_of_mem_log_run {record : LogRecord}
    (parsed : CommandLine.parse arguments = .ok (.session options))
    (member : record ∈ (run arguments files input).log) :
    record = options.startRecord ∨ Literal.IsRefusalRecord record ∨
      ∃ error, record = unsavedRecord options.historyFile error := by
  simp only [run, parsed, runSession, Logged.log_bind, Logged.log_emit, List.singleton_append,
    List.mem_cons] at member
  refine member.imp_right fun member => ?_
  cases opened : openSource options files.read input with
  | error failure => simp [opened] at member
  | ok opening =>
      simp only [opened, Logged.log_bind, Logged.log_pure, List.append_nil,
        List.mem_append] at member
      exact member.imp Session.isRefusalRecord_of_mem_log_run
        eq_unsavedRecord_of_mem_log_saveHistory

/-- Accepted options have a radix between 2 and 36.  Hence every run prints, for
each token that it reads from any line source, exactly one line, which holds no
line feed: the canonical decimal text of the number that the token denotes, or
the refusal of the token, which is quoted as it stands.  Neither the reader nor
the splitter finds fault with the radix, whatever the text, and no run logs that
it does. -/
theorem token_outcomes_wellFormed
    (parsed : CommandLine.parse arguments = .ok (.session options))
    (files : FileStore) (input : Bytes) :
    (2 ≤ options.radix ∧ options.radix ≤ 36) ∧
    (∀ failure, openSource options files.read input = .error failure →
      (run arguments files input).value.stdout = "") ∧
    (∀ opening, openSource options files.read input = .ok opening →
      ∃ answers,
        List.Forall₂
            (Session.Answers (IsTokenLine options.radix)
              "Readline error: stream did not contain valid UTF-8")
            opening.source.pending answers ∧
          (run arguments files input).value.stdout =
            Text.unlines opening.printed ++
              String.join (answers.map fun printed =>
                opening.source.prompt ++ Text.unlines printed) ++
              opening.source.prompt) ∧
    (∀ text number,
      (Literal.read options.radix text).value ≠ .error (.invalidRadix number) ∧
        Literal.split options.radix text.toList ≠ .error (.invalidRadix number)) ∧
    ∀ record ∈ (run arguments files input).log,
      record = options.startRecord ∨ Literal.IsRefusalRecord record ∨
        ∃ error, record = unsavedRecord options.historyFile error := by
  have isRadix := CommandLine.isRadix_of_parse parsed
  refine ⟨isRadix, fun failure failed => ?_, fun opening opened => ?_,
    fun text number => ⟨Literal.value_read_ne_invalidRadix isRadix text,
      Literal.split_ne_invalidRadix isRadix text.toList⟩,
    fun record member => cases_of_mem_log_run parsed member⟩
  · rw [run_of_failure input parsed failed]
  · obtain ⟨-, printed⟩ := run_of_opening input parsed opened
    have each : ∀ text, ∀ token ∈ Text.tokens text, IsTokenLine options.radix token
        (outcomeText (Literal.read options.radix (String.ofList token)).value) :=
      fun text token member =>
        isTokenLine_outcomeText isRadix (Text.lineFeed_not_mem_of_mem_tokens member)
    refine ⟨_, Session.forall₂_answersBy each opening.source.pending, ?_⟩
    rw [printed, Session.text_run, List.map_map, String.append_assoc]
    simp only [Session.value_answer]
    rfl

/-- A token of hexadecimal digits in both cases, and one with another letter. -/
theorem token_outcomes_wellFormed_hexadecimal :
    ∃ lines,
      List.Forall₂ (IsTokenLine 16) ["-fF".toList, "g0".toList] lines ∧
        (run ["--radix", "16", "in"]
          (.ofEntries [(["in"], .file (Text.encode "-fF g0\n".toList))]) []).value.stdout =
            Text.unlines lines ∧
        Text.unlines lines = "-255\nerror: malformed integer literal: `g0`\n" := by
  have parsed : CommandLine.parse ["--radix", "16", "in"] =
      .ok (.session ⟨true, some "in", "history.txt", 16⟩) := by
    decide
  have opened : openSource ⟨true, some "in", "history.txt", 16⟩
      (FileStore.read (.ofEntries [(["in"], .file (Text.encode "-fF g0\n".toList))])) [] =
        .ok ⟨[], ⟨"", [.line "-fF g0".toList], none⟩⟩ := by
    rfl
  obtain ⟨-, -, printed, -⟩ := token_outcomes_wellFormed parsed
    (.ofEntries [(["in"], .file (Text.encode "-fF g0\n".toList))]) []
  have cut : Text.tokens "-fF g0".toList = ["-fF".toList, "g0".toList] := by decide
  obtain ⟨answers, answered, stdout⟩ := printed _ opened
  obtain _ | @⟨_, lines, _, _, ⟨tokenLines⟩, noOthers⟩ := answered
  rw [List.forall₂_nil_left_iff.mp noOthers] at stdout
  rw [cut] at tokenLines
  have stdoutEq : (run ["--radix", "16", "in"]
      (.ofEntries [(["in"], .file (Text.encode "-fF g0\n".toList))]) []).value.stdout =
        Text.unlines lines := by
    simpa [String.join] using stdout
  refine ⟨lines, tokenLines, stdoutEq, ?_⟩
  rw [← stdoutEq]
  decide

end Program

end ExactInteger
