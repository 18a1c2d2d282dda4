import ExactInteger.Program
import ExactInteger.Proofs.SessionTranscript

/-!
# The agreement of line sources

Lines reach a session from a file, which is decoded as a whole, from standard
input with its terminators, or from standard input without them.  The answers
are the same in all three cases: those to the segments of the input, each of
which is echoed by itself.  This file proves the agreement for sessions and
then for runs of the program, together with the condition under which a file
can be read at all.
-/

namespace ExactInteger

/-- The lines that a segment of bytes is echoed as, each with its terminator. -/
def segmentEcho (radix : Nat) (segment : Bytes) : String :=
  match Text.decode? segment with
  | some text => Text.unlines (echo radix text).value
  | none => ""

@[simp]
theorem segmentEcho_encode (radix : Nat) (text : List Char) :
    segmentEcho radix (Text.encode text) =
      Text.unlines (echo radix text).value := by
  simp [segmentEcho]

/-- The segments of the encoding of a text are echoed as the text is. -/
theorem join_segmentEcho_encode (radix : Nat) (text : List Char) :
    String.join
        ((Text.byteSegments (Text.encode text)).map (segmentEcho radix)) =
      Text.unlines (echo radix text).value := by
  rw [Text.byteSegments_encode, ← value_echo_segments, Text.unlines_flatMap]
  simp [Function.comp_def]

/-! ## Sessions -/

namespace Session

theorem text_run_ofText (radix : Nat) (text : List Char) :
    Session.text (run radix (.ofText text)).value.1 =
      Text.unlines (echo radix text).value := by
  rw [text_run, ← value_echo_segments, Text.unlines_flatMap]
  simp [LineSource.ofText, Text.lines, answer, Function.comp_def]

theorem text_run_withHistory (radix : Nat) (text : List Char)
    (history : History) :
    Session.text (run radix (.withHistory (Text.encode text) history)).value.1 =
      Text.unlines (echo radix text).value := by
  rw [text_run, ← value_echo_segments, Text.unlines_flatMap]
  simp [LineSource.withHistory, Text.byteSegments_encode, Reading.ofSegment,
    Reading.chomp, answer, Function.comp_def]

theorem text_run_prompted (radix : Nat) (text : List Char) :
    Session.text (run radix (.prompted (Text.encode text))).value.1 =
      String.join ((Text.byteSegments (Text.encode text)).map fun segment =>
        ">>> " ++ segmentEcho radix segment) ++ ">>> " := by
  rw [text_run]
  simp [LineSource.prompted, Text.byteSegments_encode, Reading.ofSegment,
    answer, Function.comp_def]

end Session

/-! ## Runs -/

namespace Program

variable {arguments : List String} {options : Options} {files : FileStore}
variable (input : Bytes)

theorem run_of_failure {failure : Failure}
    (parsed : CommandLine.parse arguments = .ok (.session options))
    (failed : openSource options files.read input = .error failure) :
    (run arguments files input).value = ⟨"", some failure, files⟩ := by
  simp [run, parsed, runSession, failed]

theorem run_of_opening {opening : Opening}
    (parsed : CommandLine.parse arguments = .ok (.session options))
    (opened : openSource options files.read input = .ok opening) :
    (run arguments files input).value.failure = none ∧
      (run arguments files input).value.stdout =
        Text.unlines opening.printed ++
          Session.text (Session.run options.radix opening.source).value.1 := by
  simp [run, parsed, runSession, opened]

theorem run_of_inputText {path : String} {text : List Char}
    (parsed : CommandLine.parse arguments = .ok (.session options))
    (inputFile : options.inputFile = some path)
    (contents : files.read path = .ok (Text.encode text)) :
    (run arguments files input).value.failure = none ∧
      (run arguments files input).value.stdout =
        Text.unlines (echo options.radix text).value := by
  have opened : openSource options files.read input =
      .ok ⟨[], .ofText text⟩ := by
    simp [openSource, inputFile, inputText, contents]
  obtain ⟨succeeded, printed⟩ := run_of_opening _ parsed opened
  refine ⟨succeeded, ?_⟩
  rw [printed, Session.text_run_ofText]
  simp

theorem run_of_undecodable {path : String} {bytes : Bytes}
    (parsed : CommandLine.parse arguments = .ok (.session options))
    (inputFile : options.inputFile = some path)
    (contents : files.read path = .ok bytes)
    (undecodable : ¬ Text.SegmentsDecodable bytes) :
    (run arguments files input).value =
      ⟨"", some (.unreadable path .undecodable), files⟩ := by
  have noText : Text.decode? bytes = none := by
    rwa [← Option.not_isSome_iff_eq_none, Text.isSome_decode?_iff]
  apply run_of_failure input parsed
  simp [openSource, inputFile, inputText, contents, noText]

/-- The history file can be read to its end. -/
def HistoryLoads (files : FileStore) (path : String) : Prop :=
  ∃ contents, files.read path = .ok contents ∧ Text.SegmentsDecodable contents

theorem complete_load_iff {contents : Bytes} :
    (History.load contents).complete = true ↔
      Text.SegmentsDecodable contents := by
  simp [History.load, History.decodedLines, Text.SegmentsDecodable]

theorem printed_continuedHistory (files : FileStore) (path : String) :
    ((continuedHistory (files.read path)).1 = [] ↔ HistoryLoads files path) ∧
      ((continuedHistory (files.read path)).1 = [noHistoryLine] ↔
        ¬ HistoryLoads files path) := by
  cases found : files.read path with
  | error error => simp [continuedHistory, HistoryLoads, found]
  | ok contents =>
      by_cases complete : (History.load contents).complete = true
      · simp [continuedHistory, HistoryLoads, found, complete,
          ← complete_load_iff]
      · simp [continuedHistory, HistoryLoads, found, complete,
          ← complete_load_iff]

theorem run_of_history (text : List Char)
    (parsed : CommandLine.parse arguments = .ok (.session options))
    (noInputFile : options.inputFile = none) (readline : options.readline = true) :
    (run arguments files (Text.encode text)).value.failure = none ∧
      (run arguments files (Text.encode text)).value.stdout =
        Text.unlines (continuedHistory (files.read options.historyFile)).1 ++
          Text.unlines (echo options.radix text).value := by
  have opened : openSource options files.read (Text.encode text) =
      .ok ⟨(continuedHistory (files.read options.historyFile)).1,
        .withHistory (Text.encode text)
          (continuedHistory (files.read options.historyFile)).2⟩ := by
    simp [openSource, noInputFile, readline]
  obtain ⟨succeeded, printed⟩ := run_of_opening _ parsed opened
  refine ⟨succeeded, ?_⟩
  rw [printed, Session.text_run_withHistory]

theorem run_of_prompt (text : List Char)
    (parsed : CommandLine.parse arguments = .ok (.session options))
    (noInputFile : options.inputFile = none)
    (noReadline : options.readline = false) :
    (run arguments files (Text.encode text)).value.failure = none ∧
      (run arguments files (Text.encode text)).value.stdout =
        String.join ((Text.byteSegments (Text.encode text)).map fun segment =>
          ">>> " ++ segmentEcho options.radix segment) ++ ">>> " := by
  have opened : openSource options files.read (Text.encode text) =
      .ok ⟨[], .prompted (Text.encode text)⟩ := by
    simp [openSource, noInputFile, noReadline]
  obtain ⟨succeeded, printed⟩ := run_of_opening _ parsed opened
  refine ⟨succeeded, ?_⟩
  rw [printed, Session.text_run_prompted]
  simp

/-- The line structure of an input file does not matter: a run on a file that
holds a text succeeds and prints what the whole text is echoed as, since cutting
the text into lines, trimming them and leaving out blank ones keeps its
tokens. -/
theorem run_ignores_line_structure {path : String} {bytes : Bytes}
    {text : List Char}
    (parsed : CommandLine.parse arguments = .ok (.session options))
    (inputFile : options.inputFile = some path)
    (contents : files.read path = .ok bytes)
    (decoded : Text.decode? bytes = some text) :
    (run arguments files input).value.failure = none ∧
      (run arguments files input).value.stdout =
        Text.unlines (echo options.radix text).value ∧
      (((Text.lines text).map Text.trim).filter (!·.isEmpty)).flatMap
          Text.tokens =
        Text.tokens text := by
  have encoded : bytes = Text.encode text := Text.decode?_eq_some_iff.mp decoded
  rw [encoded] at contents
  obtain ⟨succeeded, printed⟩ :=
    run_of_inputText input parsed inputFile contents
  exact ⟨succeeded, printed, Text.tokens_lines text⟩

theorem run_ignores_line_structure_hexadecimal :
    CommandLine.parse ["--radix", "16", "in"] =
        .ok (.session ⟨true, some "in", "history.txt", 16⟩) ∧
      (run ["--radix", "16", "in"]
          (.ofEntries [(["in"], .file (Text.encode
            "fF\r\n\r -0\u2028\n\n 1\u0085zz\r".toList))]) []).value.stdout =
        "255\n0\n1\nerror: malformed integer literal: `zz`\n" := by
  have parsed : CommandLine.parse ["--radix", "16", "in"] =
      .ok (.session ⟨true, some "in", "history.txt", 16⟩) := by
    decide
  have contents : FileStore.read (.ofEntries [(["in"], .file (Text.encode
        "fF\r\n\r -0\u2028\n\n 1\u0085zz\r".toList))]) "in" =
      .ok (Text.encode "fF\r\n\r -0\u2028\n\n 1\u0085zz\r".toList) :=
    rfl
  obtain ⟨-, printed, -⟩ :=
    run_ignores_line_structure [] parsed rfl contents (Text.decode?_encode _)
  refine ⟨parsed, ?_⟩
  rw [printed]
  decide

/-- The three line sources agree.  A file can be read exactly when each segment
of it encodes a text, and otherwise the failure says so.  If each segment of the
bytes encodes a text, then a run prints the echoes of the segments one after
another: nothing else if the bytes are in the input file, after a notice when
the history cannot be loaded if they are on standard input, and each after a
prompt, with one more prompt at the end, if there is no history. -/
theorem line_sources_agree {bytes : Bytes}
    (parsed : CommandLine.parse arguments = .ok (.session options)) :
    (∀ path, options.inputFile = some path → files.read path = .ok bytes →
      ((run arguments files input).value.failure = none ↔
        Text.SegmentsDecodable bytes) ∧
      (¬ Text.SegmentsDecodable bytes →
        ∃ failure, (run arguments files input).value.failure = some failure ∧
          failure.message = "could not read " ++ path ++ ": " ++
            "stream did not contain valid UTF-8") ∧
      (Text.SegmentsDecodable bytes →
        (run arguments files input).value.stdout =
          String.join
            ((Text.byteSegments bytes).map (segmentEcho options.radix)))) ∧
    (Text.SegmentsDecodable bytes → options.inputFile = none →
      options.readline = true →
      (run arguments files bytes).value.failure = none ∧
      (HistoryLoads files options.historyFile →
        (run arguments files bytes).value.stdout =
          String.join
            ((Text.byteSegments bytes).map (segmentEcho options.radix))) ∧
      (¬ HistoryLoads files options.historyFile →
        (run arguments files bytes).value.stdout =
          "No previous history.\n" ++ String.join
            ((Text.byteSegments bytes).map (segmentEcho options.radix)))) ∧
    (Text.SegmentsDecodable bytes → options.inputFile = none →
      options.readline = false →
      (run arguments files bytes).value.failure = none ∧
      (run arguments files bytes).value.stdout =
        String.join ((Text.byteSegments bytes).map fun segment =>
          ">>> " ++ segmentEcho options.radix segment) ++ ">>> ") := by
  refine ⟨fun path inputFile contents => ?_, ?_, ?_⟩
  · by_cases decodable : Text.SegmentsDecodable bytes
    · obtain ⟨text, rfl⟩ := decodable.exists_encode
      obtain ⟨succeeded, printed⟩ :=
        run_of_inputText input parsed inputFile contents
      refine ⟨by simp [succeeded, decodable], fun undecodable => ?_, fun _ => ?_⟩
      · exact absurd decodable undecodable
      · rw [printed, join_segmentEcho_encode]
    · have failed :=
        run_of_undecodable input parsed inputFile contents decodable
      refine ⟨by simp [failed, decodable], fun _ => ?_, fun isDecodable => ?_⟩
      · exact ⟨_, by rw [failed], rfl⟩
      · exact absurd isDecodable decodable
  · intro decodable noInputFile readline
    obtain ⟨text, rfl⟩ := decodable.exists_encode
    obtain ⟨succeeded, printed⟩ :=
      run_of_history text parsed noInputFile readline
    obtain ⟨loads_iff, failsToLoad_iff⟩ :=
      printed_continuedHistory files options.historyFile
    rw [printed, join_segmentEcho_encode]
    refine ⟨succeeded, fun loads => ?_, fun failsToLoad => ?_⟩
    · rw [loads_iff.mpr loads]
      simp
    · rw [failsToLoad_iff.mpr failsToLoad]
      rfl
  · intro decodable noInputFile noReadline
    obtain ⟨text, rfl⟩ := decodable.exists_encode
    exact run_of_prompt text parsed noInputFile noReadline

theorem line_sources_agree_unterminated :
    (∃ failure,
      (run ["in"] (.ofEntries [(["in"], .file [0x37, 0x0A, 0xC3])]) []).value.failure =
          some failure ∧
        failure.message = "could not read " ++ "in" ++ ": " ++
          "stream did not contain valid UTF-8") ∧
    (run ["in"] (.ofEntries [(["in"], .file (Text.encode "7\r\n\u00e9".toList))])
        []).value.stdout =
      "7\nerror: malformed integer literal: `\u00e9`\n" ∧
    (run [] .empty (Text.encode "7\r\n\u00e9".toList)).value.stdout =
      "No previous history.\n7\nerror: malformed integer literal: `\u00e9`\n" ∧
    (run ["--no-readline"] .empty
        (Text.encode "7\r\n\u00e9".toList)).value.stdout =
      ">>> 7\n>>> error: malformed integer literal: `\u00e9`\n>>> " := by
  have fileParsed : CommandLine.parse ["in"] =
      .ok (.session ⟨true, some "in", "history.txt", 10⟩) := by
    decide
  have historyParsed : CommandLine.parse [] =
      .ok (.session ⟨true, none, "history.txt", 10⟩) := by
    decide
  have promptParsed : CommandLine.parse ["--no-readline"] =
      .ok (.session ⟨false, none, "history.txt", 10⟩) := by
    decide
  have decodable := Text.segmentsDecodable_encode "7\r\n\u00e9".toList
  have undecodable : ¬ Text.SegmentsDecodable [0x37, 0x0A, 0xC3] := by
    rw [← Text.isSome_decode?_iff]
    decide
  have noHistory : ¬ HistoryLoads .empty "history.txt" := by
    rintro ⟨contents, found, -⟩
    cases found
  refine ⟨?_, ?_, ?_, ?_⟩
  · exact ((line_sources_agree [] fileParsed).1 "in" rfl rfl).2.1 undecodable
  · rw [((line_sources_agree [] fileParsed).1 "in" rfl rfl).2.2 decodable,
      join_segmentEcho_encode]
    decide
  · rw [((line_sources_agree [] historyParsed).2.1 decodable rfl rfl).2.2
      noHistory, join_segmentEcho_encode]
    decide
  · rw [((line_sources_agree [] promptParsed).2.2 decodable rfl rfl).2,
      Text.byteSegments_encode, List.map_map]
    simp only [Function.comp_def, segmentEcho_encode]
    decide

end Program

end ExactInteger
