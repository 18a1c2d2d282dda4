import ExactInteger.Proofs.HistoryRuns

/-!
# Histories that were saved

A session with a history starts from the history that is loaded from its file, and
saves its own at the end.  If anything is saved then the file is replaced, and what
is loaded from it next is what was saved, as long as no entry ends in a carriage
return.  If nothing is saved then nothing has been added to what was loaded, and
the same is loaded again.  So in either case the next session starts from the
entries that this one has ended with.
-/

namespace ExactInteger

namespace History

theorem wellFormed_load (contents : Bytes) :
    WellFormed (load contents).history.entries := by
  have wellFormed : WellFormed ((loadableEntries contents).foldl add empty).entries :=
    wellFormed_nil.foldl_add (loadableEntries contents)
  rw [load_eq]
  simp only
  split <;> exact wellFormed

theorem fileContents?_eq_none {history : History} (nothing : ¬ HasUnsaved history) :
    history.fileContents? = none := by
  rw [fileContents?, if_neg]
  simpa [HasUnsaved] using nothing

end History

namespace Program

variable {options : Options} {files : FileStore} {source : LineSource} {history : History}

/-- The history that a session with a history starts from. -/
def startingHistory (options : Options) (files : FileStore) : History :=
  (continuedHistory (files.read options.historyFile)).2

theorem startingHistory_of_absent {error : FileError}
    (absent : files.read options.historyFile = .error error) :
    startingHistory options files = .empty := by
  rw [startingHistory, absent, continuedHistory]

theorem wellFormed_startingHistory (options : Options) (files : FileStore) :
    History.WellFormed (startingHistory options files).entries := by
  rw [startingHistory, continuedHistory.eq_def]
  split
  next => exact History.wellFormed_nil
  next contents _ => exact History.wellFormed_load contents

/-- Where there is nothing to save, the files stay as they were. -/
theorem value_saveHistory_of_nothing (keeps : source.history = some history)
    (nothing : ¬ History.HasUnsaved history) :
    (saveHistory options files source).value = files := by
  have nothingToSave : source.unsavedHistory? = none := by
    rw [LineSource.unsavedHistory?, keeps, Option.bind_some,
      History.fileContents?_eq_none nothing]
  rw [value_saveHistory, nothingToSave]

/-- What was saved is what the next session starts from, whatever the file held
before. -/
theorem startingHistory_saveHistory_of_hasUnsaved {path : Path}
    (writable : files.writable options.historyFile = .ok path)
    (notNull : path ≠ FileStore.nullDevice)
    (keeps : source.history = some history) (hasUnsaved : History.HasUnsaved history)
    (restorable : History.Restorable history.entries) :
    startingHistory options (saveHistory options files source).value =
      ⟨history.entries, false⟩ := by
  have toSave : source.unsavedHistory? =
      some (Text.encode (History.fileText history.entries)) := by
    rw [LineSource.unsavedHistory?, keeps, Option.bind_some, hasUnsaved.fileContents?]
  rw [value_saveHistory, toSave]
  simp only [FileStore.tryWrite_of_ok writable]
  rw [startingHistory, FileStore.read_writeAt _ writable notNull, continuedHistory,
    History.load_fileText restorable]

/-- The next session starts from the entries that a session has ended with. -/
theorem entries_startingHistory_saveHistory {path : Path} {added : List String}
    (writable : files.writable options.historyFile = .ok path)
    (notNull : path ≠ FileStore.nullDevice)
    (keeps : source.history =
      some (added.foldl History.add (startingHistory options files)))
    (noReturns :
      ∀ entry ∈ (added.foldl History.add (startingHistory options files)).entries,
        entry.toList.getLast? ≠ some '\r') :
    (startingHistory options (saveHistory options files source).value).entries =
      (added.foldl History.add (startingHistory options files)).entries := by
  by_cases hasUnsaved :
      History.HasUnsaved (added.foldl History.add (startingHistory options files))
  · have wellFormed := (wellFormed_startingHistory options files).foldl_add added
    rw [startingHistory_saveHistory_of_hasUnsaved writable notNull keeps hasUnsaved
      ⟨wellFormed, noReturns⟩]
  -- If nothing is to be saved, then everything that was added was skipped.
  · have unchanged : added.foldl History.add (startingHistory options files) =
        startingHistory options files :=
      (History.foldl_add_eq_or_hasUnsaved _ added).resolve_right hasUnsaved
    rw [value_saveHistory_of_nothing keeps hasUnsaved, unchanged]

/-- Loading undoes saving, wherever a file can be written and is kept.  Entries that a
history may hold and that do not end in a carriage return, whatever characters they
consist of, are restored exactly if they are added where there was no history, saved
and loaded again.  More generally, if any entries are added to what was loaded from a
file, then the entries that come of it are restored, unless one of them ends in a
carriage return.  In particular this is so of what was loaded itself, and also if it is
written out as it is. -/
theorem load_undoes_save {path : Path}
    (writable : files.writable options.historyFile = .ok path)
    (notNull : path ≠ FileStore.nullDevice) :
    (∀ (entries : List String) (error : FileError) (source : LineSource),
      History.Restorable entries → files.read options.historyFile = .error error →
      source.history = some (entries.foldl History.add (startingHistory options files)) →
      startingHistory options (saveHistory options files source).value =
        ⟨entries, false⟩) ∧
    (∀ (added : List String) (source : LineSource),
      source.history = some (added.foldl History.add (startingHistory options files)) →
      (∀ entry ∈ (added.foldl History.add (startingHistory options files)).entries,
        entry.toList.getLast? ≠ some '\r') →
      (startingHistory options (saveHistory options files source).value).entries =
        (added.foldl History.add (startingHistory options files)).entries) ∧
    (∀ contents : Bytes,
      (∀ entry ∈ (History.load contents).history.entries,
        entry.toList.getLast? ≠ some '\r') →
      History.load
          (Text.encode (History.fileText (History.load contents).history.entries)) =
        ⟨⟨(History.load contents).history.entries, false⟩, true⟩) := by
  refine ⟨fun entries error source restorable absent keeps => ?_,
    fun added source keeps noReturns =>
      entries_startingHistory_saveHistory writable notNull keeps noReturns,
    fun contents noReturns =>
      History.load_fileText ⟨History.wellFormed_load contents, noReturns⟩⟩
  rw [startingHistory_of_absent absent, restorable.toWellFormed.foldl_add_empty] at keeps
  by_cases nothing : entries = []
  · subst nothing
    rw [value_saveHistory_of_nothing keeps (by simp [History.HasUnsaved]),
      startingHistory_of_absent absent]
    rfl
  · exact startingHistory_saveHistory_of_hasUnsaved writable notNull keeps
      (by simp [History.HasUnsaved, nothing]) restorable

/-- Entries that look like parts of a history file. -/
def deceptiveEntries : List String :=
  ["#V2", "\\n", "a\nb", "\r\\", "#V2", "\n", "\\q\r\n"]

/-- A history file without the header, and with what would be an unknown escape. -/
def plainFiles : FileStore :=
  .ofEntries [(["h"], .file (Text.encode "\\q\n\n\\q\n".toList))]

theorem load_undoes_save_deceptive :
    startingHistory ⟨true, none, "h", 10⟩
        (saveHistory ⟨true, none, "h", 10⟩ .empty
          ⟨"", [], some (deceptiveEntries.foldl History.add .empty)⟩).value =
      ⟨deceptiveEntries, false⟩ ∧
    (startingHistory ⟨true, none, "h", 10⟩
        (saveHistory ⟨true, none, "h", 10⟩ plainFiles
          ⟨"", [], some ⟨["\\q", "\\"], true⟩⟩).value).entries =
      ["\\q", "\\"] ∧
    History.load (Text.encode (History.fileText ["\\q\\n", "\n"])) =
      ⟨⟨["\\q\\n", "\n"], false⟩, true⟩ := by
  have restorable : History.Restorable deceptiveEntries :=
    ⟨⟨by decide, by decide, by decide⟩, by decide⟩
  have continued : ["\\"].foldl History.add
      (startingHistory ⟨true, none, "h", 10⟩ plainFiles) = ⟨["\\q", "\\"], true⟩ := by
    decide
  have loaded :
      (History.load (Text.encode "#V2\r\n\n\\q\\n\n\\n\n".toList)).history.entries =
        ["\\q\\n", "\n"] := by
    decide
  refine ⟨?_, ?_, ?_⟩
  · obtain ⟨restores, -, -⟩ :=
      @load_undoes_save ⟨true, none, "h", 10⟩ .empty ["work", "h"] (by decide)
        (by decide)
    exact restores _ .notFound _ restorable (by decide) rfl
  · obtain ⟨-, restores, -⟩ :=
      @load_undoes_save ⟨true, none, "h", 10⟩ plainFiles ["work", "h"] (by decide)
        (by decide)
    have restored := restores ["\\"]
    rw [continued] at restored
    exact restored _ rfl (by decide)
  · obtain ⟨-, -, restores⟩ :=
      @load_undoes_save ⟨true, none, "h", 10⟩ .empty ["work", "h"] (by decide)
        (by decide)
    have restored := restores (Text.encode "#V2\r\n\n\\q\\n\n\\n\n".toList)
    rw [loaded] at restored
    exact restored (by decide)

end Program

end ExactInteger
