import ExactInteger.Proofs.LiteralSplitting
import ExactInteger.Proofs.RunFrame
import ExactInteger.Proofs.TokenOutcomes

/-!
# What a run logs

A line of the output and the log records that go with it come from the same reading of a
token.  So the log of a run can be told from its tokens as its output can: a token that is
printed as a number leaves no record, and one that is printed as an error leaves exactly
one, with the reason why it could not be split.  Before them stands the record of the
start, and after them a warning if a history could not be saved.
-/

namespace ExactInteger

/-! ## Tokens -/

namespace Literal

theorem read_of_split_error {radix : Nat} (isRadix : IsRadix radix) {token : List Char}
    {error : SplitError} (refused : split radix token = .error error) :
    read radix (String.ofList token) =
      ⟨.error (.malformedLiteral (String.ofList token)),
        [refusalRecord (String.ofList token) (.split error)]⟩ := by
  have valued := valueBy_of_split_error convert refused
  rw [read, readBy, if_pos isRadix, String.toList_ofList, valued]
  rfl

theorem read_of_denotes {radix : Nat} (isRadix : IsRadix radix) {token : List Char}
    {number : Int} (denotes : Denotes radix token number) :
    read radix (String.ofList token) = pure (.ok number) := by
  have valued : valueBy convert radix token = .ok number :=
    (valueBy_eq_ok_iff convert_isPositional).mpr ⟨isRadix, denotes⟩
  rw [read, readBy, if_pos isRadix, String.toList_ofList, valued]

theorem exists_denotes_of_split_ok {radix : Nat} {token : List Char} {parts : Parts}
    (accepted : split radix token = .ok parts) : ∃ number, Denotes radix token number := by
  obtain ⟨number, valued⟩ :=
    exists_valueBy_of_split_ok convert_isPositional.acceptsDigits accepted
  exact ⟨number, ((valueBy_eq_ok_iff convert_isPositional).mp valued).2⟩

end Literal

/-- What a run tells of a token: the line that it prints for it, and what it logs. -/
inductive TokenTold (radix : Nat) (token : List Char) : Logged String → Prop
  | accepted {number : Int} (denotes : Literal.Denotes radix token number) :
      TokenTold radix token ⟨Decimal.ofInt number, []⟩
  | refused {error : Literal.SplitError} (cause : Literal.split radix token = .error error) :
      TokenTold radix token
        ⟨"error: malformed integer literal: `" ++ String.ofList token ++ "`",
          [⟨.debug, "rejecting integer literal " ++ Text.quoted (String.ofList token) ++
            ": " ++ error.message⟩]⟩

section Tokens

variable {radix : Nat} {token : List Char}

theorem outcomeText_read_of_split_error (isRadix : Literal.IsRadix radix)
    {error : Literal.SplitError} (cause : Literal.split radix token = .error error) :
    outcomeText <$> Literal.read radix (String.ofList token) =
      ⟨"error: malformed integer literal: `" ++ String.ofList token ++ "`",
        [Literal.refusalRecord (String.ofList token) (.split error)]⟩ := by
  rw [Literal.read_of_split_error isRadix cause, ← outcomeText_malformedLiteral]
  rfl

theorem outcomeText_read_of_number (isRadix : Literal.IsRadix radix) {number : Int}
    (denotes : Literal.Denotes radix token number) :
    outcomeText <$> Literal.read radix (String.ofList token) =
      ⟨Decimal.ofInt number, []⟩ := by
  rw [Literal.read_of_denotes isRadix denotes, map_pure, outcomeText, pretty_int]
  rfl

/-- What is told of a token is what its reading comes to, and nothing else. -/
theorem tokenTold_iff (isRadix : Literal.IsRadix radix) {told : Logged String} :
    TokenTold radix token told ↔
      told = outcomeText <$> Literal.read radix (String.ofList token) := by
  constructor
  · rintro (denotes | cause)
    · exact (outcomeText_read_of_number isRadix denotes).symm
    · exact (outcomeText_read_of_split_error isRadix cause).symm
  · rintro rfl
    cases cut : Literal.split radix token with
    | error error =>
        rw [outcomeText_read_of_split_error isRadix cut]
        exact .refused cut
    | ok parts =>
        obtain ⟨number, denotes⟩ := Literal.exists_denotes_of_split_ok cut
        rw [outcomeText_read_of_number isRadix denotes]
        exact .accepted denotes

end Tokens

/-! ## Readings -/

namespace Session

/-- What a session tells of a reading, token by token. Only tokens are logged. -/
def told (radix : Nat) : Reading → List (Logged String) :=
  answersBy (fun token => outcomeText <$> Literal.read radix (String.ofList token))
    ⟨"Readline error: stream did not contain valid UTF-8", []⟩

/-- An answer is put together of what is told. -/
theorem answer_eq (radix : Nat) (reading : Reading) :
    answer radix reading =
      ⟨(told radix reading).map Logged.value, (told radix reading).flatMap Logged.log⟩ := by
  cases reading with
  | line text => exact Logged.mapM_eq _ _
  | undecodable => rfl
  | endOfInput => rfl

/-- A session prints what it tells of its readings, each after the prompt. -/
theorem text_run_told (radix : Nat) (source : LineSource) :
    Session.text (run radix source).value.1 =
      String.join ((source.pending.map (told radix)).map fun answers =>
        source.prompt ++ Text.unlines (answers.map Logged.value)) ++ source.prompt := by
  rw [text_run, List.map_map]
  simp only [answer_eq]
  rfl

/-- A session logs what it tells of its readings, in their order. -/
theorem log_run (radix : Nat) (source : LineSource) :
    (run radix source).log =
      (source.pending.map (told radix)).flatten.flatMap Logged.log := by
  rw [run_eq, Logged.log_map, Logged.log_mapM, ← List.flatMap_def, List.flatMap_assoc]
  simp only [answer_eq]

end Session

/-! ## Runs -/

namespace Program

variable {arguments : List String} {options : Options} {files : FileStore} {input : Bytes}

/-- A session that keeps a history has entries to save at its end, and its history file
cannot be written. -/
structure SavingFails (options : Options) (files : FileStore) (input : Bytes)
    (error : FileError) : Prop where
  noInputFile : options.inputFile = none
  readline : options.readline = true
  refused : ∃ contents,
    (finalHistory (files.read options.historyFile) input).fileContents? = some contents ∧
      files.write options.historyFile contents = .error error

theorem log_run_of_opening {opening : Opening}
    (parsed : CommandLine.parse arguments = .ok (.session options))
    (opened : openSource options files.read input = .ok opening) :
    (run arguments files input).log =
      options.startRecord ::
        ((Session.run options.radix opening.source).log ++
          (saveHistory options files (Session.finalSource opening.source)).log) := by
  simp [run, parsed, runSession, opened, Session.run_eq]

theorem log_run_of_failure {failure : Failure}
    (parsed : CommandLine.parse arguments = .ok (.session options))
    (failed : openSource options files.read input = .error failure) :
    (run arguments files input).log = [options.startRecord] := by
  simp [run, parsed, runSession, failed]

theorem log_saveHistory_of_nothing {source : LineSource}
    (nothing : source.unsavedHistory? = none) : (saveHistory options files source).log = [] := by
  rw [saveHistory, nothing]
  rfl

theorem log_saveHistory_of_something {source : LineSource} {contents : Bytes}
    (unsaved : source.unsavedHistory? = some contents) :
    (saveHistory options files source).log =
      match files.write options.historyFile contents with
      | .ok _ => []
      | .error error => [unsavedRecord options.historyFile error] := by
  rw [saveHistory, unsaved]
  simp only
  cases files.write options.historyFile contents <;> rfl

/-- A session warns of its history exactly if it could not be saved. -/
theorem log_saveHistory_finalSource {opening : Opening}
    (opened : openSource options files.read input = .ok opening) :
    (∀ error, SavingFails options files input error →
      (saveHistory options files (Session.finalSource opening.source)).log =
        [unsavedRecord options.historyFile error]) ∧
    ((∀ error, ¬ SavingFails options files input error) →
      (saveHistory options files (Session.finalSource opening.source)).log = []) := by
  constructor
  · rintro error ⟨noInputFile, readline, contents, unsaved, failed⟩
    rw [log_saveHistory_of_something
      ((unsavedHistory?_of_history opened noInputFile readline).trans unsaved), failed]
  · intro saves
    by_cases noHistory : options.inputFile.isSome = true ∨ options.readline = false
    · exact log_saveHistory_of_nothing (unsavedHistory?_of_noHistory opened noHistory)
    have noInputFile : options.inputFile = none := by
      simpa using not_or.mp noHistory |>.1
    have readline : options.readline = true := by
      simpa using not_or.mp noHistory |>.2
    cases unsaved : (Session.finalSource opening.source).unsavedHistory? with
    | none => exact log_saveHistory_of_nothing unsaved
    | some contents =>
        rw [log_saveHistory_of_something unsaved]
        rw [unsavedHistory?_of_history opened noInputFile readline] at unsaved
        cases outcome : files.write options.historyFile contents with
        | ok saved => rfl
        | error error =>
            exact absurd ⟨noInputFile, readline, contents, unsaved, outcome⟩ (saves error)

theorem log_run_of_no_session
    (noSession : ∀ options, CommandLine.parse arguments ≠ .ok (.session options)) :
    (run arguments files input).log = [] := by
  cases parsed : CommandLine.parse arguments with
  | error error => rw [run, parsed, Logged.log_pure]
  | ok request =>
      cases request with
      | help => rw [run, parsed, Logged.log_pure]
      | version => rw [run, parsed, Logged.log_pure]
      | session options => exact absurd parsed (noSession options)

/-- The log of a run tells the same story as its output.  A run with accepted options first
logs that it starts.  If there is nothing to read its lines from, that is all.  Otherwise
the line that is printed for each token is a number, and then no record is logged, or the
refusal of the token, and then one record is, which quotes the token and says why it cannot
be split; the records stand in the order of the lines.  A warning follows if the run keeps
a history and saving it failed, and nothing else does.  A run without options logs nothing.
-/
theorem log_accords_with_output (arguments : List String) (files : FileStore)
    (input : Bytes) :
    (∀ options, CommandLine.parse arguments = .ok (.session options) →
      (∀ failure, openSource options files.read input = .error failure →
        (run arguments files input).value.stdout = "" ∧
          (run arguments files input).log =
            [⟨.debug, "starting with " ++ options.summary⟩]) ∧
      ∀ opening, openSource options files.read input = .ok opening →
        ∃ told warnings,
          List.Forall₂
            (Session.Answers (TokenTold options.radix)
              ⟨"Readline error: stream did not contain valid UTF-8", []⟩)
            opening.source.pending told ∧
          (run arguments files input).value.stdout =
            Text.unlines opening.printed ++
              String.join (told.map fun answers =>
                opening.source.prompt ++ Text.unlines (answers.map Logged.value)) ++
              opening.source.prompt ∧
          (run arguments files input).log =
            ⟨.debug, "starting with " ++ options.summary⟩ ::
              (told.flatten.flatMap Logged.log ++ warnings) ∧
          (∀ error, SavingFails options files input error →
            warnings = [⟨.warn, "could not save history to " ++ options.historyFile ++
              ": " ++ error.message⟩]) ∧
          ((∀ error, ¬ SavingFails options files input error) → warnings = [])) ∧
    ((∀ options, CommandLine.parse arguments ≠ .ok (.session options)) →
      (run arguments files input).log = []) := by
  refine ⟨fun options parsed => ⟨fun failure failed => ?_, fun opening opened => ?_⟩,
    log_run_of_no_session⟩
  · rw [run_of_failure input parsed failed, log_run_of_failure parsed failed]
    exact ⟨rfl, rfl⟩
  · have isRadix := CommandLine.isRadix_of_parse parsed
    obtain ⟨warns, noWarning⟩ := log_saveHistory_finalSource opened
    refine ⟨opening.source.pending.map (Session.told options.radix),
      (saveHistory options files (Session.finalSource opening.source)).log,
      Session.forall₂_answersBy (fun _ _ _ => (tokenTold_iff isRadix).mpr rfl) _,
      ?_, ?_, warns, noWarning⟩
    · rw [(run_of_opening input parsed opened).2, Session.text_run_told, String.append_assoc]
    · rw [log_run_of_opening parsed opened, Session.log_run]
      rfl

/-- The history cannot be saved, since the directory of its file is missing. One token
is accepted and one is refused. -/
theorem log_accords_with_output_unsaved :
    CommandLine.parse ["--history-file", "d/h"] =
        .ok (.session ⟨true, none, "d/h", 10⟩) ∧
      SavingFails ⟨true, none, "d/h", 10⟩ .empty [0x37, 0x0A, 0x78, 0x0A] .notFound ∧
      (run ["--history-file", "d/h"] .empty [0x37, 0x0A, 0x78, 0x0A]).value.stdout =
        "No previous history.\n7\nerror: malformed integer literal: `x`\n" ∧
      (run ["--history-file", "d/h"] .empty [0x37, 0x0A, 0x78, 0x0A]).log =
        [⟨.debug, "starting with " ++ Options.summary ⟨true, none, "d/h", 10⟩⟩,
          ⟨.debug, "rejecting integer literal \"x\": Invalid digit for base 10: x"⟩,
          ⟨.warn, "could not save history to d/h: No such file or directory (os error 2)"⟩] := by
  have parsed : CommandLine.parse ["--history-file", "d/h"] =
      .ok (.session ⟨true, none, "d/h", 10⟩) := by
    decide
  have opened := openSource_of_history (FileStore.read .empty) [0x37, 0x0A, 0x78, 0x0A]
    (rfl : Options.inputFile ⟨true, none, "d/h", 10⟩ = none) rfl
  have savingFails : SavingFails ⟨true, none, "d/h", 10⟩ .empty [0x37, 0x0A, 0x78, 0x0A]
      .notFound :=
    ⟨rfl, rfl, _, rfl, rfl⟩
  obtain ⟨told, warnings, answered, printed, logged, warned, -⟩ :=
    ((log_accords_with_output ["--history-file", "d/h"] .empty [0x37, 0x0A, 0x78, 0x0A]).1
      _ parsed).2 _ opened
  rw [warned _ savingFails] at logged
  have decimal : Literal.IsRadix 10 := by decide
  have cutNumber : Text.tokens ['7'] = [['7']] := by decide
  have cutLetter : Text.tokens ['x'] = [['x']] := by decide
  have answered : List.Forall₂
      (Session.Answers (TokenTold 10)
        ⟨"Readline error: stream did not contain valid UTF-8", []⟩)
      [.line ['7'], .line ['x']] told :=
    answered
  obtain _ | ⟨⟨number⟩, _ | ⟨⟨letter⟩, noOthers⟩⟩ := answered
  rw [cutNumber] at number
  rw [cutLetter] at letter
  obtain _ | ⟨number, noOtherNumbers⟩ := number
  obtain _ | ⟨letter, noOtherLetters⟩ := letter
  rw [List.forall₂_nil_left_iff.mp noOthers, List.forall₂_nil_left_iff.mp noOtherNumbers,
    List.forall₂_nil_left_iff.mp noOtherLetters, (tokenTold_iff decimal).mp number,
    (tokenTold_iff decimal).mp letter] at printed logged
  refine ⟨parsed, savingFails, printed.trans (by decide), logged.trans ?_⟩
  decide

end Program

end ExactInteger
