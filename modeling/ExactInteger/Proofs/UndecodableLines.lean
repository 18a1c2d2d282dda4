import ExactInteger.Proofs.RequestLoop

/-!
# Lines that are no text

A segment of standard input that is no text is answered by one line that says
so, in its place, and is not remembered.  Segments cut from an input stay the
segments of what is left, so a run on the input without such segments prints the
same but for these lines, and leaves the same files.
-/

namespace ExactInteger

namespace Text

/-- The segments of bytes that encode a text, each by itself. -/
def textSegments (bytes : Bytes) : List Bytes :=
  (byteSegments bytes).filter fun segment => (decode? segment).isSome

/-- The bytes that are left without the segments that are no text. -/
def withoutUndecodable (bytes : Bytes) : Bytes :=
  (textSegments bytes).flatten

theorem byteSegments_withoutUndecodable (bytes : Bytes) :
    byteSegments (withoutUndecodable bytes) = textSegments bytes := by
  have isCut : IsCut (· == 0x0A) (byteSegments bytes) := isCut_splitAfter bytes
  exact (isCut.filter _).splitAfter_flatten

end Text

theorem Reading.ofSegment_of_undecodable {segment : Bytes}
    (undecodable : Text.decode? segment = none) :
    Reading.ofSegment segment = .undecodable := by
  rw [ofSegment, undecodable]

theorem enteredEntries_withoutUndecodable (input : Bytes) :
    enteredEntries (Text.withoutUndecodable input) = enteredEntries input := by
  rw [enteredEntries, Text.byteSegments_withoutUndecodable, Text.textSegments]
  apply flatMap_filter_of_eq_nil
  intro segment _ notText
  have undecodable : Text.decode? segment = none := by simpa using notText
  rw [Reading.ofSegment_of_undecodable undecodable]
  rfl

namespace Session

/-- The part of the output that stands for a segment of standard input. -/
def contribution (radix : Nat) (prompt : String) (segment : Bytes) : String :=
  prompt ++ Text.unlines (answer radix (.ofSegment segment)).value

theorem map_text_segmentExchanges (radix : Nat) (prompt : String) (segments : List Bytes) :
    (segmentExchanges radix prompt segments).map Exchange.text =
      segments.map (contribution radix prompt) ++ [prompt] := by
  simp [segmentExchanges, exchanges, Exchange.text, contribution, Function.comp_def]

theorem contribution_of_undecodable (radix : Nat) (prompt : String) {segment : Bytes}
    (undecodable : Text.decode? segment = none) :
    contribution radix prompt segment =
      prompt ++ "Readline error: stream did not contain valid UTF-8\n" := by
  rw [contribution, Reading.ofSegment_of_undecodable undecodable]
  rfl

end Session

namespace Program

variable {arguments : List String} {options : Options} {files : FileStore}

/-- Lines of standard input that are no text are isolated, with a history and
behind a prompt.  The loop of requests ends, after one request for each segment
of the input and one at its end.  A segment that is no text contributes one line,
after the prompt, and nothing else: without these segments the run has the same
status, leaves the same files, and prints the same but for their
contributions. -/
theorem undecodable_segments_isolated
    (parsed : CommandLine.parse arguments = .ok (.session options))
    (noInputFile : options.inputFile = none) (input : Bytes) :
    ∃ opening, openSource options files.read [] = .ok opening ∧
      (∃ exchanges final,
        Session.Conversation options.radix input opening.source exchanges final) ∧
      (∀ exchanges final,
        Session.Conversation options.radix input opening.source exchanges final →
        exchanges.length = (Text.byteSegments input).length + 1 ∧
        exchanges.map Exchange.text =
          (Text.byteSegments input).map
            (Session.contribution options.radix (inputPrompt options)) ++
              [inputPrompt options] ∧
        (run arguments files input).value.stdout =
          Text.unlines opening.printed ++ String.join (exchanges.map Exchange.text) ∧
        (run arguments files input).value.files =
          (saveHistory options files final).value) ∧
      (∀ segment, Text.decode? segment = none →
        Session.contribution options.radix (inputPrompt options) segment =
          inputPrompt options ++
            "Readline error: stream did not contain valid UTF-8\n") ∧
      (run arguments files (Text.withoutUndecodable input)).value.stdout =
        Text.unlines opening.printed ++ String.join
          ((Text.textSegments input).map
            (Session.contribution options.radix (inputPrompt options)) ++
              [inputPrompt options]) ∧
      (run arguments files (Text.withoutUndecodable input)).value.files =
        (run arguments files input).value.files ∧
      (run arguments files (Text.withoutUndecodable input)).value.status = 0 ∧
      (run arguments files input).value.status = 0 := by
  obtain ⟨opening, opened, promptEq, hears⟩ := exists_opening_hearing files noInputFile
  have conversation :=
    Session.conversation_segmentExchanges options.radix input opening.source
  have others := Session.conversation_segmentExchanges options.radix
    (Text.withoutUndecodable input) opening.source
  rw [Text.byteSegments_withoutUndecodable, enteredEntries_withoutUndecodable] at others
  rw [promptEq] at conversation others
  obtain ⟨succeeded, printed, saved⟩ :=
    run_of_conversation parsed (hears input) conversation
  obtain ⟨othersSucceeded, othersPrinted, othersSaved⟩ :=
    run_of_conversation parsed (hears (Text.withoutUndecodable input)) others
  refine ⟨opening, opened, ⟨_, _, conversation⟩, fun exchanges final other => ?_,
    fun segment undecodable =>
      Session.contribution_of_undecodable options.radix (inputPrompt options) undecodable,
    ?_, othersSaved.trans saved.symm, ?_, ?_⟩
  · obtain ⟨rfl, rfl⟩ := conversation.unique other
    refine ⟨?_, Session.map_text_segmentExchanges _ _ _, printed, saved⟩
    simp [Session.segmentExchanges, Session.exchanges]
  · rw [othersPrinted, Session.text, Session.map_text_segmentExchanges]
  · rw [Outcome.status, othersSucceeded]
    rfl
  · rw [Outcome.status, succeeded]
    rfl

/-- Two segments in a row are no text, and so is the last one, which is not
terminated. -/
theorem undecodable_segments_isolated_consecutive :
    Text.withoutUndecodable [0x37, 0x0A, 0xFF, 0x0A, 0xC3, 0x0A, 0x61, 0x0A, 0xE9] =
        [0x37, 0x0A, 0x61, 0x0A] ∧
      (run ["--no-readline"] .empty
          [0x37, 0x0A, 0xFF, 0x0A, 0xC3, 0x0A, 0x61, 0x0A, 0xE9]).value.stdout =
        ">>> 7\n>>> Readline error: stream did not contain valid UTF-8\n" ++
          ">>> Readline error: stream did not contain valid UTF-8\n" ++
          ">>> error: malformed integer literal: `a`\n" ++
          ">>> Readline error: stream did not contain valid UTF-8\n>>> " ∧
      (run ["--no-readline"] .empty [0x37, 0x0A, 0x61, 0x0A]).value.stdout =
        ">>> 7\n>>> error: malformed integer literal: `a`\n>>> " := by
  have parsed : CommandLine.parse ["--no-readline"] =
      .ok (.session ⟨false, none, "history.txt", 10⟩) := by
    decide
  have cut : Text.withoutUndecodable
      [0x37, 0x0A, 0xFF, 0x0A, 0xC3, 0x0A, 0x61, 0x0A, 0xE9] =
        [0x37, 0x0A, 0x61, 0x0A] := by
    decide
  obtain ⟨opening, opened, ⟨exchanges, final, conversation⟩, converses, -, printed, -⟩ :=
    @undecodable_segments_isolated _ _ .empty parsed rfl
      [0x37, 0x0A, 0xFF, 0x0A, 0xC3, 0x0A, 0x61, 0x0A, 0xE9]
  obtain ⟨-, texts, printedAll, -⟩ := converses exchanges final conversation
  have silent : opening.printed = [] := by
    cases opened
    rfl
  rw [silent] at printed printedAll
  rw [cut] at printed
  refine ⟨cut, ?_, ?_⟩
  · rw [printedAll, texts]
    decide +kernel
  · rw [printed]
    decide

end Program

end ExactInteger
