import ExactInteger.Proofs.HistoryFile
import ExactInteger.Proofs.RunFrame

/-!
# Histories from run to run

Between two runs the history file holds the entries of a history that it
restores, or is missing when there are none.  A run adds what was entered to
these entries, and keeps to this state.  So runs one after another add the
entries of all their inputs, as a single run on all the input does.

A history file with a line that is no text is loaded up to that line.  If there
is anything to save at the end of the run, then the file is replaced, and what
stood after that line is lost.
-/

namespace ExactInteger

/-! ## Entered lines -/

/-- What is entered is a trimmed text, and not an empty one. -/
theorem exists_trim_of_mem_enteredEntries {input : Bytes} {entry : String}
    (member : entry ∈ enteredEntries input) :
    ∃ text, entry.toList = Text.trim text ∧ Text.trim text ≠ [] := by
  obtain ⟨segment, -, entered⟩ := List.mem_flatMap.mp member
  cases reading : Reading.ofSegment segment with
  | undecodable => simp [reading, Reading.entries] at entered
  | endOfInput => simp [reading, Reading.entries] at entered
  | line text =>
      rw [reading, Reading.entries] at entered
      split at entered
      next => simp at entered
      next notBlank =>
        rw [List.mem_singleton] at entered
        refine ⟨text, by rw [entered, String.toList_ofList], ?_⟩
        intro nothingLeft
        exact notBlank (List.isEmpty_iff.mpr nothingLeft)

theorem ne_empty_of_mem_enteredEntries {input : Bytes} {entry : String}
    (member : entry ∈ enteredEntries input) : entry ≠ "" := by
  obtain ⟨text, written, somethingLeft⟩ := exists_trim_of_mem_enteredEntries member
  rintro rfl
  exact somethingLeft written.symm

theorem noReturn_of_mem_enteredEntries {input : Bytes} {entry : String}
    (member : entry ∈ enteredEntries input) : entry.toList.getLast? ≠ some '\r' := by
  obtain ⟨text, written, -⟩ := exists_trim_of_mem_enteredEntries member
  rw [written]
  intro isReturn
  have solid := Text.isWhiteSpace_of_getLast?_trim isReturn
  rw [Text.isWhiteSpace_carriageReturn] at solid
  exact absurd solid (by decide)

/-- An input that is empty or ends with a line feed is entered by itself, whatever
follows. -/
theorem enteredEntries_append {first : Bytes}
    (whole : first = [] ∨ first.getLast? = some 0x0A) (second : Bytes) :
    enteredEntries (first ++ second) = enteredEntries first ++ enteredEntries second := by
  rcases whole with rfl | last
  · rfl
  · have ended : first = first.dropLast ++ [0x0A] :=
      (List.dropLast_append_getLast? _ last).symm
    rw [ended, List.append_assoc, List.singleton_append, enteredEntries,
      Text.byteSegments, Text.splitAfter_append rfl, List.flatMap_append]
    rfl

theorem enteredEntries_flatten {inputs : List Bytes}
    (cut : ∀ input ∈ inputs.dropLast, input = [] ∨ input.getLast? = some 0x0A) :
    enteredEntries inputs.flatten = inputs.flatMap enteredEntries := by
  induction inputs with
  | nil => rfl
  | cons input inputs ih =>
      cases inputs with
      | nil => simp
      | cons next inputs =>
          rw [List.dropLast_cons_cons, List.forall_mem_cons] at cut
          rw [List.flatten_cons, enteredEntries_append cut.1, ih cut.2]
          rfl

/-! ## Runs one after another -/

namespace Program

variable {arguments : List String} {options : Options} {files : FileStore}

/-- The files in which the history file at a place holds entries. Where there are
none, there is no such file yet. -/
def savedAt (files : FileStore) (path : Path) (entries : List String) :
    FileStore :=
  if entries = [] then files
  else files.writeAt (Text.encode (History.fileText entries)) path

/-- The files after runs with the same arguments, each on an input of its own. -/
def runAll (arguments : List String) (files : FileStore) (inputs : List Bytes) :
    FileStore :=
  inputs.foldl (fun files input => (run arguments files input).value.files) files

theorem savedAt_nil (files : FileStore) (path : Path) :
    savedAt files path [] = files :=
  if_pos rfl

theorem savedAt_of_ne_nil {entries : List String} (nonempty : entries ≠ [])
    (files : FileStore) (path : Path) :
    savedAt files path entries =
      files.writeAt (Text.encode (History.fileText entries)) path :=
  if_neg nonempty

section Restarts

variable {path : Path} {entries : List String} {error : FileError}

/-- The history that is continued is the one that was saved. -/
theorem continuedHistory_savedAt
    (absent : files.read options.historyFile = .error error)
    (writable : files.writable options.historyFile = .ok path)
    (restorable : History.Restorable entries) :
    (continuedHistory ((savedAt files path entries).read
      options.historyFile)).2 = ⟨entries, false⟩ := by
  have notNull := FileStore.ne_nullDevice_of_absent absent writable
  by_cases nothing : entries = []
  · rw [nothing, savedAt_nil, absent]
    rfl
  · rw [savedAt_of_ne_nil nothing, FileStore.read_writeAt _ writable notNull,
      continuedHistory, History.load_fileText restorable]

theorem writable_savedAt (writable : files.writable options.historyFile = .ok path) :
    (savedAt files path entries).writable options.historyFile = .ok path := by
  by_cases nothing : entries = []
  · rwa [nothing, savedAt_nil]
  · rw [savedAt_of_ne_nil nothing]
    exact FileStore.writable_writeAt _ writable

theorem writeAt_savedAt (contents : Bytes) :
    (savedAt files path entries).writeAt contents path = files.writeAt contents path := by
  by_cases nothing : entries = []
  · rw [nothing, savedAt_nil]
  · rw [savedAt_of_ne_nil nothing]
    exact FileStore.writeAt_writeAt files path _ _

/-- A run adds what was entered to the entries of the history file. -/
theorem files_run_savedAt
    (parsed : CommandLine.parse arguments = .ok (.session options))
    (noInputFile : options.inputFile = none) (readline : options.readline = true)
    (absent : files.read options.historyFile = .error error)
    (writable : files.writable options.historyFile = .ok path)
    (restorable : History.Restorable entries) (input : Bytes) :
    (run arguments (savedAt files path entries) input).value.files =
      savedAt files path
        ((enteredEntries input).foldl History.add ⟨entries, false⟩).entries := by
  rw [files_run_of_history parsed noInputFile readline, finalHistory,
    continuedHistory_savedAt absent writable restorable]
  rcases History.foldl_add_eq_or_hasUnsaved ⟨entries, false⟩ (enteredEntries input) with
    unchanged | hasUnsaved
  · rw [unchanged]
    rfl
  · rw [hasUnsaved.fileContents?]
    simp only [FileStore.tryWrite_of_ok (writable_savedAt writable), writeAt_savedAt]
    rw [savedAt_of_ne_nil hasUnsaved.2]

theorem runAll_savedAt
    (parsed : CommandLine.parse arguments = .ok (.session options))
    (noInputFile : options.inputFile = none) (readline : options.readline = true)
    (absent : files.read options.historyFile = .error error)
    (writable : files.writable options.historyFile = .ok path)
    (restorable : History.Restorable entries) (inputs : List Bytes) :
    runAll arguments (savedAt files path entries) inputs =
      savedAt files path
        ((inputs.flatMap enteredEntries).foldl History.add ⟨entries, false⟩).entries := by
  induction inputs generalizing entries with
  | nil => rfl
  | cons input inputs ih =>
      -- Trimmed lines do not end in a carriage return, so the next run starts
      -- from a history that is restored as well.
      have added : History.Restorable
          ((enteredEntries input).foldl History.add ⟨entries, false⟩).entries := by
        apply restorable.foldl_add
        intro entry member
        exact noReturn_of_mem_enteredEntries member
      rw [runAll, List.foldl_cons, ← runAll,
        files_run_savedAt parsed noInputFile readline absent writable restorable, ih added,
        List.flatMap_cons, List.foldl_append]
      congr 1
      apply History.entries_foldl_add
      rfl

end Restarts

/-- Runs compose through the history file.  Where there is none at first but one
can be written, runs one after another, on inputs that all but the last are
empty or end with a line feed, leave the same files as one run on all the input,
and so the same history file, or equally none. -/
theorem runs_compose {inputs : List Bytes} {error : FileError} {path : Path}
    (parsed : CommandLine.parse arguments = .ok (.session options))
    (noInputFile : options.inputFile = none) (readline : options.readline = true)
    (absent : files.read options.historyFile = .error error)
    (writable : files.writable options.historyFile = .ok path)
    (cut : ∀ input ∈ inputs.dropLast, input = [] ∨ input.getLast? = some 0x0A) :
    runAll arguments files inputs = (run arguments files inputs.flatten).value.files := by
  have atOnce := files_run_savedAt parsed noInputFile readline absent writable
    History.restorable_nil inputs.flatten
  have inTurn := runAll_savedAt parsed noInputFile readline absent writable
    History.restorable_nil inputs
  rw [savedAt_nil] at atOnce inTurn
  rw [atOnce, inTurn, enteredEntries_flatten cut]

/-- The second run enters nothing, the third repeats an entry first, and the last
line is not terminated. -/
theorem runs_compose_repeated :
    (runAll [] .empty
        [Text.encode "a\\b \r\n".toList, [], Text.encode " a\\b\n\n7\n".toList,
          Text.encode "7".toList]).entries =
      [(["history.txt"], .file (Text.encode "#V2\na\\\\b\n7\n".toList))] := by
  have parsed : CommandLine.parse [] = .ok (.session ⟨true, none, "history.txt", 10⟩) := by
    decide
  have absent : FileStore.empty.read "history.txt" = .error .notFound := by decide
  have writable : FileStore.empty.writable "history.txt" =
      .ok ["work", "history.txt"] := by
    decide
  have cut : ∀ input ∈ [Text.encode "a\\b \r\n".toList, [],
      Text.encode " a\\b\n\n7\n".toList, Text.encode "7".toList].dropLast,
      input = [] ∨ input.getLast? = some 0x0A := by
    decide
  rw [runs_compose parsed rfl rfl absent writable cut]
  decide

/-- A history may be kept above the working directory, or at any other place. -/
example :
    (runAll ["--history-file", "../h"] .empty [[0x37, 0x0A], [0x38]]).read "/./h" =
      .ok (Text.encode "#V2\n7\n8\n".toList) := by
  decide

/-! ## Histories that fail to load -/

section FailedLoads

variable {contents : Bytes}

theorem segmentsDecodable_nil : Text.SegmentsDecodable [] := by
  simp [Text.SegmentsDecodable, Text.byteSegments]

/-- What is read from the null device is text, so a history that fails to load is in
a file that keeps what is written to it. -/
theorem ne_nullDevice_of_undecodable {text : String} {path : Path}
    (found : files.read text = .ok contents)
    (undecodable : ¬ Text.SegmentsDecodable contents)
    (writable : files.writable text = .ok path) : path ≠ FileStore.nullDevice := by
  rintro rfl
  rw [FileStore.read_of_writable_nullDevice writable, Except.ok.injEq] at found
  exact undecodable (found ▸ segmentsDecodable_nil)

/-- The entries that a run has after its history failed to load: those of the
lines up to the first that is no text, and those that were entered. -/
def remainingEntries (contents input : Bytes) : List String :=
  History.loadableEntries contents ++ enteredEntries input

theorem ne_empty_of_mem_remainingEntries {input : Bytes} {entry : String}
    (member : entry ∈ remainingEntries contents input) : entry ≠ "" := by
  rcases List.mem_append.mp member with loaded | entered
  · exact History.ne_empty_of_mem_entriesOf loaded
  · exact ne_empty_of_mem_enteredEntries entered

theorem finalHistory_of_undecodable (undecodable : ¬ Text.SegmentsDecodable contents)
    (input : Bytes) :
    finalHistory (.ok contents) input =
      (remainingEntries contents input).foldl History.add .empty := by
  have incomplete : (History.load contents).complete = false := by
    rwa [← Bool.not_eq_true, complete_load_iff]
  have loaded : (History.load contents).history =
      (History.loadableEntries contents).foldl History.add .empty := by
    rw [History.load_eq] at incomplete ⊢
    simp only at incomplete
    simp only [incomplete, Bool.false_eq_true, if_false]
  rw [finalHistory, continuedHistory, loaded, remainingEntries, List.foldl_append]

variable (parsed : CommandLine.parse arguments = .ok (.session options))
variable (noInputFile : options.inputFile = none) (readline : options.readline = true)
variable (found : files.read options.historyFile = .ok contents)
variable (undecodable : ¬ Text.SegmentsDecodable contents)
include parsed noInputFile readline found undecodable

/-- If nothing was loaded or entered, then the history file stays as it was. -/
theorem read_run_of_nothing {input : Bytes}
    (nothing : remainingEntries contents input = []) :
    (run arguments files input).value.files.read options.historyFile = .ok contents := by
  rw [files_run_of_history parsed noInputFile readline, found,
    finalHistory_of_undecodable undecodable, nothing]
  exact found

/-- If anything was loaded or entered, then the history file holds just that. -/
theorem read_run_of_something {input : Bytes} {path : Path}
    (writable : files.writable options.historyFile = .ok path)
    (something : remainingEntries contents input ≠ []) :
    (run arguments files input).value.files.read options.historyFile =
      .ok (Text.encode (History.fileText
        ((remainingEntries contents input).foldl History.add .empty).entries)) := by
  have notNull := ne_nullDevice_of_undecodable found undecodable writable
  have hasUnsaved := History.hasUnsaved_foldl_add_empty something
    fun entry member => ne_empty_of_mem_remainingEntries member
  rw [files_run_of_history parsed noInputFile readline, found,
    finalHistory_of_undecodable undecodable, hasUnsaved.fileContents?]
  simp only [FileStore.tryWrite_of_ok writable]
  exact FileStore.read_writeAt _ writable notNull

theorem stdout_run_of_undecodable (input : Bytes) :
    ∃ answers, (run arguments files input).value.stdout =
      "No previous history.\n" ++ answers := by
  have failsToLoad : ¬ HistoryLoads files options.historyFile := by
    rintro ⟨others, othersFound, decodable⟩
    rw [found, Except.ok.injEq] at othersFound
    exact undecodable (othersFound ▸ decodable)
  have notice := (printed_continuedHistory files options.historyFile).2.mpr failsToLoad
  have opened := openSource_of_history files.read input noInputFile readline
  obtain ⟨-, printed⟩ := run_of_opening input parsed opened
  rw [printed, notice]
  exact ⟨_, rfl⟩

/-- A history file that fails to load costs entries.  After such a run, which
only says that there is no previous history, an entry that a line of the file
denoted is still denoted by one exactly if nothing was loaded or entered or the file
cannot be written, so that it was not replaced, or if it was loaded or entered
itself.  So what stands after the first line that is no text is lost as soon as
anything is saved.  This holds as long as the entries that were loaded and entered
fit into a history. -/
theorem failed_load_keeps_iff {input : Bytes}
    (few : (remainingEntries contents input).length ≤ History.capacity) :
    (∃ answers, (run arguments files input).value.stdout =
        "No previous history.\n" ++ answers) ∧
      ∃ after, (run arguments files input).value.files.read options.historyFile =
          .ok after ∧
        ∀ entry ∈ History.entriesIn contents,
          entry ∈ History.entriesIn after ↔
            (remainingEntries contents input = [] ∨
              ∃ error, files.writable options.historyFile = .error error) ∨
            ∃ kept ∈ remainingEntries contents input, History.reread kept = entry := by
  refine ⟨stdout_run_of_undecodable parsed noInputFile readline found undecodable input,
    ?_⟩
  by_cases notReplaced : remainingEntries contents input = [] ∨
      ∃ error, files.writable options.historyFile = .error error
  · have unchanged :
        (run arguments files input).value.files.read options.historyFile = .ok contents := by
      rcases notReplaced with nothing | ⟨error, unwritable⟩
      · exact read_run_of_nothing parsed noInputFile readline found undecodable nothing
      · rwa [files_run_of_unwritable parsed noInputFile readline unwritable]
    exact ⟨contents, unchanged, fun entry denoted =>
      iff_of_true denoted (Or.inl notReplaced)⟩
  · obtain ⟨something, noError⟩ := not_or.mp notReplaced
    obtain ⟨path, writable⟩ : ∃ path, files.writable options.historyFile = .ok path := by
      cases outcome : files.writable options.historyFile with
      | error error => exact absurd ⟨error, outcome⟩ noError
      | ok path => exact ⟨path, rfl⟩
    refine ⟨_, read_run_of_something parsed noInputFile readline found undecodable
      writable something, ?_⟩
    intro entry denoted
    have nonempty := History.ne_empty_of_mem_entriesOf denoted
    have saved_iff : ∀ kept, kept ∈
        ((remainingEntries contents input).foldl History.add .empty).entries ↔
          kept ∈ remainingEntries contents input := by
      intro kept
      exact History.mem_foldl_add_empty_iff
        (fun other member => ne_empty_of_mem_remainingEntries member) few
    rw [History.entriesIn_fileText, List.mem_filter, List.mem_map]
    constructor
    · rintro ⟨⟨kept, saved, readBack⟩, -⟩
      exact Or.inr ⟨kept, (saved_iff kept).mp saved, readBack⟩
    · rintro (kept | ⟨kept, remaining, readBack⟩)
      · exact absurd kept notReplaced
      · exact ⟨⟨kept, (saved_iff kept).mpr remaining, readBack⟩, by simpa using nonempty⟩

end FailedLoads

/-- A history file with a line that is no text between two entries. -/
def interruptedHistory : Bytes :=
  Text.encode "#V2\na\n".toList ++ [0xFF, 0x0A] ++ Text.encode "b\n".toList

def interruptedFiles : FileStore :=
  .ofEntries [(["history.txt"], .file interruptedHistory)]

theorem not_segmentsDecodable_interruptedHistory :
    ¬ Text.SegmentsDecodable interruptedHistory := by
  rw [← Text.isSome_decode?_iff]
  decide

/-- The entry before the line that is no text is kept, and the entry after it is
lost. -/
theorem failed_load_keeps_iff_interrupted :
    (∃ answers, (run [] interruptedFiles [0x31, 0x0A]).value.stdout =
        "No previous history.\n" ++ answers) ∧
      ∃ after,
        (run [] interruptedFiles [0x31, 0x0A]).value.files.read "history.txt" =
          .ok after ∧
        "a" ∈ History.entriesIn after ∧ "b" ∉ History.entriesIn after := by
  have parsed : CommandLine.parse [] = .ok (.session ⟨true, none, "history.txt", 10⟩) := by
    decide
  have found : interruptedFiles.read "history.txt" = .ok interruptedHistory := by decide
  have remaining : remainingEntries interruptedHistory [0x31, 0x0A] = ["a", "1"] := by
    decide
  have few : (remainingEntries interruptedHistory [0x31, 0x0A]).length ≤
      History.capacity := by
    decide
  have writable : interruptedFiles.writable "history.txt" =
      .ok ["work", "history.txt"] := by
    decide
  obtain ⟨notice, after, foundAfter, keeps_iff⟩ :=
    failed_load_keeps_iff parsed rfl rfl found not_segmentsDecodable_interruptedHistory few
  refine ⟨notice, after, foundAfter, ?_, ?_⟩
  · rw [keeps_iff "a" (by decide), remaining]
    exact Or.inr (by decide)
  · rw [keeps_iff "b" (by decide), remaining]
    rintro ((nothing | ⟨error, unwritable⟩) | kept)
    · cases nothing
    · rw [writable] at unwritable
      cases unwritable
    · exact absurd kept (by decide)

/-- It does not hold that a history file that fails to load keeps the entries of
all its lines, even if these and the lines entered are far fewer than fit. -/
theorem failed_load_costs_history :
    ¬ ∀ (arguments : List String) (options : Options) (files : FileStore)
        (contents input : Bytes),
      CommandLine.parse arguments = .ok (.session options) →
      options.inputFile = none → options.readline = true →
      files.read options.historyFile = .ok contents →
      ¬ Text.SegmentsDecodable contents →
      (Text.byteSegments contents).length + (Text.byteSegments input).length ≤ 100 →
      ∀ entry ∈ History.entriesIn contents, ∃ after,
        (run arguments files input).value.files.read options.historyFile = .ok after ∧
          entry ∈ History.entriesIn after := by
  intro keepsHistory
  obtain ⟨after, found, kept⟩ :=
    keepsHistory [] ⟨true, none, "history.txt", 10⟩ interruptedFiles interruptedHistory
      [0x31, 0x0A] (by decide) rfl rfl (by decide) not_segmentsDecodable_interruptedHistory
      (by decide) "b" (by decide)
  have replaced :
      (run [] interruptedFiles [0x31, 0x0A]).value.files.read "history.txt" =
        .ok (Text.encode "#V2\na\n1\n".toList) := by
    decide
  rw [replaced, Except.ok.injEq] at found
  subst found
  exact absurd kept (by decide)

end Program

end ExactInteger
