import ExactInteger.Proofs.FileWriting
import ExactInteger.Proofs.SourceAgreement

/-!
# What a run leaves of the files

A run reads at most one file, and writes at most one, at the end of a session
that keeps a history.  A run that fails has printed nothing and leaves the files
as they were, and so does any run without a history.  With one, all other files
stay as they were, and neither the output nor the status of the run shows
whether the history could be saved.
-/

namespace ExactInteger

/-- The entries that a session remembers from standard input. -/
def enteredEntries (input : Bytes) : List String :=
  (Text.byteSegments input).flatMap fun segment => (Reading.ofSegment segment).entries

theorem Reading.entries_chomp (reading : Reading) :
    reading.chomp.entries = reading.entries := by
  cases reading with
  | line text => rw [Reading.chomp, Reading.entries, Reading.entries, Text.trim_chomp]
  | undecodable => rfl
  | endOfInput => rfl

namespace LineSource

theorem history_finalSource_withHistory (input : Bytes) (history : History) :
    (Session.finalSource (.withHistory input history)).history =
      some ((enteredEntries input).foldl History.add history) := by
  simp [Session.finalSource, rememberAll, withHistory, enteredEntries, List.flatMap_map,
    Reading.entries_chomp]

end LineSource

namespace Program

variable {arguments : List String} {options : Options} {files : FileStore}
variable {input : Bytes}

theorem value_saveHistory (options : Options) (files : FileStore) (source : LineSource) :
    (saveHistory options files source).value =
      match source.unsavedHistory? with
      | none => files
      | some contents => files.tryWrite options.historyFile contents := by
  rw [saveHistory]
  cases source.unsavedHistory? with
  | none => rfl
  | some contents =>
      simp only [FileStore.tryWrite]
      cases files.write options.historyFile contents <;> rfl

theorem files_run_of_opening {opening : Opening}
    (parsed : CommandLine.parse arguments = .ok (.session options))
    (opened : openSource options files.read input = .ok opening) :
    (run arguments files input).value.files =
      (saveHistory options files (Session.finalSource opening.source)).value := by
  simp [run, parsed, runSession, opened, Session.run_eq]

theorem history_eq_none_of_opening {read : String → Except FileError Bytes}
    {opening : Opening} (opened : openSource options read input = .ok opening)
    (noHistory : options.inputFile.isSome = true ∨ options.readline = false) :
    opening.source.history = none := by
  rw [openSource] at opened
  split at opened
  next path inputFile =>
    split at opened
    next => simp at opened
    next =>
      cases opened
      rfl
  next noInputFile =>
    have noReadline : options.readline = false := by simpa [noInputFile] using noHistory
    rw [noReadline] at opened
    cases opened
    rfl

theorem unsavedHistory?_of_noHistory {opening : Opening}
    (opened : openSource options files.read input = .ok opening)
    (noHistory : options.inputFile.isSome = true ∨ options.readline = false) :
    (Session.finalSource opening.source).unsavedHistory? = none := by
  have nothingKept : opening.source.history = none :=
    history_eq_none_of_opening opened noHistory
  simp [LineSource.unsavedHistory?, Session.finalSource, LineSource.rememberAll,
    nothingKept]

/-- A session without a history leaves the files as they were. -/
theorem files_run_of_noHistory
    (parsed : CommandLine.parse arguments = .ok (.session options))
    (noHistory : options.inputFile.isSome = true ∨ options.readline = false) :
    (run arguments files input).value.files = files := by
  cases opened : openSource options files.read input with
  | error failure => rw [run_of_failure input parsed opened]
  | ok opening =>
      rw [files_run_of_opening parsed opened, value_saveHistory,
        unsavedHistory?_of_noHistory opened noHistory]

theorem openSource_of_history (read : String → Except FileError Bytes) (input : Bytes)
    (noInputFile : options.inputFile = none) (readline : options.readline = true) :
    openSource options read input =
      .ok ⟨(continuedHistory (read options.historyFile)).1,
        .withHistory input (continuedHistory (read options.historyFile)).2⟩ := by
  simp [openSource, noInputFile, readline]

/-- The history that a session has at its end. -/
def finalHistory (contents : Except FileError Bytes) (input : Bytes) : History :=
  (enteredEntries input).foldl History.add (continuedHistory contents).2

theorem unsavedHistory?_of_history {opening : Opening}
    (opened : openSource options files.read input = .ok opening)
    (noInputFile : options.inputFile = none) (readline : options.readline = true) :
    (Session.finalSource opening.source).unsavedHistory? =
      (finalHistory (files.read options.historyFile) input).fileContents? := by
  rw [openSource_of_history _ _ noInputFile readline] at opened
  cases opened
  rw [LineSource.unsavedHistory?, LineSource.history_finalSource_withHistory]
  rfl

/-- A session with a history attempts to write it, if there is anything to save. -/
theorem files_run_of_history
    (parsed : CommandLine.parse arguments = .ok (.session options))
    (noInputFile : options.inputFile = none) (readline : options.readline = true) :
    (run arguments files input).value.files =
      match (finalHistory (files.read options.historyFile) input).fileContents? with
      | none => files
      | some contents => files.tryWrite options.historyFile contents := by
  have opened := openSource_of_history files.read input noInputFile readline
  rw [files_run_of_opening parsed opened, value_saveHistory,
    unsavedHistory?_of_history opened noInputFile readline]

/-- If the history file cannot be written, then all files stay as they were. -/
theorem files_run_of_unwritable {error : FileError}
    (parsed : CommandLine.parse arguments = .ok (.session options))
    (noInputFile : options.inputFile = none) (readline : options.readline = true)
    (unwritable : files.writable options.historyFile = .error error) :
    (run arguments files input).value.files = files := by
  rw [files_run_of_history parsed noInputFile readline]
  split
  next => rfl
  next contents unsaved => exact FileStore.tryWrite_of_error unwritable contents

theorem run_failure_frame {failure : Failure}
    (failed : (run arguments files input).value.failure = some failure) :
    (run arguments files input).value = ⟨"", some failure, files⟩ := by
  cases parsed : CommandLine.parse arguments with
  | error error =>
      simp only [run, parsed, Logged.value_pure, Option.some.injEq] at failed ⊢
      rw [failed]
  | ok request =>
      cases request with
      | help => simp [run, parsed] at failed
      | version => simp [run, parsed] at failed
      | session options =>
          cases opened : openSource options files.read input with
          | error cause =>
              rw [run_of_failure input parsed opened] at failed ⊢
              cases failed
              rfl
          | ok opening =>
              rw [(run_of_opening input parsed opened).1] at failed
              cases failed

/-- What a session with a history prints depends on the files only through the
history that it reads. -/
theorem run_of_same_history {others : FileStore} (input : Bytes)
    (parsed : CommandLine.parse arguments = .ok (.session options))
    (noInputFile : options.inputFile = none) (readline : options.readline = true)
    (sameHistory : others.read options.historyFile = files.read options.historyFile) :
    (run arguments others input).value.failure = none ∧
      (run arguments others input).value.stdout =
        (run arguments files input).value.stdout := by
  have opened := openSource_of_history files.read input noInputFile readline
  have othersOpened := openSource_of_history others.read input noInputFile readline
  rw [sameHistory] at othersOpened
  obtain ⟨-, printed⟩ := run_of_opening input parsed opened
  obtain ⟨succeeded, othersPrinted⟩ := run_of_opening input parsed othersOpened
  exact ⟨succeeded, othersPrinted.trans printed.symm⟩

/-- A run that fails has printed nothing and leaves the files as they were.  So
does a run that is asked for help or the version, and a session without a
history.  A session with a history succeeds and leaves everything as it was but
the file that the history is kept in: no other path stands for anything else
than before, and neither the working directory nor what refuses to be written is
another.  If that file cannot be written then it stays as it was, too, and
what is printed and the status are the same in any other files from which the
same history is read, whether it can be saved there or not. -/
theorem run_frame (arguments : List String) (files : FileStore) (input : Bytes) :
    (∀ failure, (run arguments files input).value.failure = some failure →
      (run arguments files input).value.stdout = "" ∧
        (run arguments files input).value.files = files) ∧
    (CommandLine.parse arguments = .ok .help ∨
        CommandLine.parse arguments = .ok .version →
      (run arguments files input).value.files = files) ∧
    (∀ options, CommandLine.parse arguments = .ok (.session options) →
      options.inputFile.isSome = true ∨ options.readline = false →
      (run arguments files input).value.files = files) ∧
    (∀ options, CommandLine.parse arguments = .ok (.session options) →
      options.inputFile = none → options.readline = true →
      (∀ path, files.writable options.historyFile ≠ .ok path →
        (run arguments files input).value.files.node? path = files.node? path) ∧
      ((run arguments files input).value.files.workingDirectory = files.workingDirectory ∧
        (run arguments files input).value.files.refusals = files.refusals) ∧
      (∀ error, files.writable options.historyFile = .error error →
        (run arguments files input).value.files = files) ∧
      (run arguments files input).value.status = 0 ∧
      (∀ others : FileStore,
        others.read options.historyFile = files.read options.historyFile →
        (run arguments others input).value.stdout =
            (run arguments files input).value.stdout ∧
          (run arguments others input).value.status =
            (run arguments files input).value.status)) := by
  refine ⟨fun failure failed => ?_, fun informed => ?_,
    fun options parsed noHistory => files_run_of_noHistory parsed noHistory,
    fun options parsed noInputFile readline => ⟨fun path other => ?_, ?_,
      fun error unwritable => files_run_of_unwritable parsed noInputFile readline unwritable,
      ?_, fun others sameHistory => ?_⟩⟩
  · rw [run_failure_frame failed]
    exact ⟨rfl, rfl⟩
  · rcases informed with parsed | parsed <;> rw [run, parsed] <;> rfl
  · rw [files_run_of_history parsed noInputFile readline]
    split
    next => rfl
    next contents unsaved => exact FileStore.node?_tryWrite other contents
  · rw [files_run_of_history parsed noInputFile readline]
    split
    next => exact ⟨rfl, rfl⟩
    next contents unsaved =>
      exact ⟨FileStore.workingDirectory_tryWrite, FileStore.refusals_tryWrite⟩
  · obtain ⟨succeeded, -⟩ := run_of_same_history input parsed noInputFile
      readline (rfl : files.read options.historyFile = _)
    rw [Outcome.status, succeeded]
    rfl
  · obtain ⟨succeeded, -⟩ := run_of_same_history input parsed noInputFile
      readline (rfl : files.read options.historyFile = _)
    obtain ⟨othersSucceeded, samePrinted⟩ :=
      run_of_same_history input parsed noInputFile readline sameHistory
    refine ⟨samePrinted, ?_⟩
    rw [Outcome.status, Outcome.status, succeeded, othersSucceeded]

/-- A directory for the history file, and another file. -/
def preparedFiles : FileStore :=
  .ofEntries [(["d"], .directory), (["a"], .file [0x61])]

/-- A history file that can be read but not written. -/
def readOnlyFiles : FileStore :=
  { FileStore.ofEntries [(["d"], .directory), (["d", "h"], .file [0x37, 0x0A])] with
    refusals := [(["work", "d", "h"], .other "Permission denied" 13)] }

/-- The directory of the history file is missing in one case and there in the
other. In a third one the history file is there, and its directory too, but it is
read-only. -/
theorem run_frame_missing_directory :
    CommandLine.parse ["--history-file", "d/h"] =
        .ok (.session ⟨true, none, "d/h", 10⟩) ∧
      (FileStore.empty.writable "d/h" = .error .notFound ∧
        (run ["--history-file", "d/h"] .empty [0x37, 0x0A]).value.files = .empty ∧
        (run ["--history-file", "d/h"] .empty [0x37, 0x0A]).value.stdout =
          "No previous history.\n7\n") ∧
      (preparedFiles.writable "d/h" = .ok ["work", "d", "h"] ∧
        (run ["--history-file", "d/h"] preparedFiles [0x37, 0x0A]).value.files.node?
          ["work", "a"] = some (.file [0x61]) ∧
        (run ["--history-file", "d/h"] preparedFiles [0x37, 0x0A]).value.stdout =
          "No previous history.\n7\n") ∧
      (readOnlyFiles.read "d/h" = .ok [0x37, 0x0A] ∧
        readOnlyFiles.writable "d/h" = .error (.other "Permission denied" 13) ∧
        (run ["--history-file", "d/h"] readOnlyFiles [0x38, 0x0A]).value.files =
          readOnlyFiles ∧
        (run ["--history-file", "d/h"] readOnlyFiles [0x38, 0x0A]).value.stdout = "8\n") := by
  have parsed : CommandLine.parse ["--history-file", "d/h"] =
      .ok (.session ⟨true, none, "d/h", 10⟩) := by
    decide
  have missing : FileStore.empty.writable "d/h" = .error .notFound := by decide
  have there : preparedFiles.writable "d/h" = .ok ["work", "d", "h"] := by decide
  have refused : readOnlyFiles.writable "d/h" = .error (.other "Permission denied" 13) := by
    decide
  have printed : (run ["--history-file", "d/h"] .empty [0x37, 0x0A]).value.stdout =
      "No previous history.\n7\n" := by
    decide
  obtain ⟨-, -, unchanged, -, same⟩ :=
    (run_frame ["--history-file", "d/h"] .empty [0x37, 0x0A]).2.2.2 _ parsed rfl rfl
  obtain ⟨others, -⟩ :=
    (run_frame ["--history-file", "d/h"] preparedFiles [0x37, 0x0A]).2.2.2 _ parsed rfl rfl
  obtain ⟨-, -, kept, -⟩ :=
    (run_frame ["--history-file", "d/h"] readOnlyFiles [0x38, 0x0A]).2.2.2 _ parsed rfl rfl
  refine ⟨parsed, ⟨missing, unchanged .notFound missing, printed⟩, ⟨there, ?_, ?_⟩,
    by decide, refused, kept _ refused, by decide⟩
  · exact others ["work", "a"] (by rw [there]; decide)
  · rw [← printed]
    exact (same preparedFiles rfl).1

end Program

end ExactInteger
