import ExactInteger.Proofs.RunFrame

/-!
# The loop of requests

On standard input, every request takes the bytes up to and including the next
line feed, whether they are text or not, and the request that finds no bytes
ends the session.  So a request that is answered by an error has made as much
progress as any other: there is one request for each segment of the input, and
one more at its end.  The exchanges are those of a session whose readings are all
at hand from the start.
-/

namespace ExactInteger

namespace Text

/-- The bytes up to and including the first line feed, and the bytes after these.
At the end of the bytes there is nothing to take. -/
def nextSegment? : Bytes → Option (Bytes × Bytes)
  | [] => none
  | byte :: bytes =>
      if byte == 0x0A then
        some ([byte], bytes)
      else
        match nextSegment? bytes with
        | none => some ([byte], [])
        | some (segment, rest) => some (byte :: segment, rest)

theorem exists_nextSegment? {bytes : Bytes} (nonempty : bytes ≠ []) :
    ∃ segment rest, nextSegment? bytes = some (segment, rest) := by
  cases bytes with
  | nil => exact absurd rfl nonempty
  | cons byte bytes =>
      rw [nextSegment?]
      split
      next => exact ⟨[byte], bytes, rfl⟩
      next => split <;> exact ⟨_, _, rfl⟩

/-- The bytes that are taken are the first segment, and the other segments are
left. -/
theorem byteSegments_of_nextSegment? {bytes segment rest : Bytes}
    (taken : nextSegment? bytes = some (segment, rest)) :
    byteSegments bytes = segment :: byteSegments rest := by
  induction bytes generalizing segment with
  | nil => cases taken
  | cons byte bytes ih =>
      rw [nextSegment?] at taken
      rw [byteSegments, splitAfter, ← byteSegments]
      split at taken
      next isEnd =>
        cases taken
        rw [if_pos isEnd]
      next noEnd =>
        rw [if_neg noEnd]
        split at taken
        next nothing =>
          have empty : bytes = [] := by
            by_contra nonempty
            obtain ⟨segment, rest, found⟩ := exists_nextSegment? nonempty
            rw [nothing] at found
            cases found
          cases taken
          rw [empty]
          rfl
        next first others found =>
          cases taken
          rw [ih found]

end Text

namespace Reading

/-- A source takes the same entries from a segment, with its terminator or
without it. -/
theorem entries_receive (source : LineSource) (segment : Bytes) :
    (source.receive segment).entries = (Reading.ofSegment segment).entries := by
  rw [LineSource.receive]
  split
  next => rfl
  next => exact entries_chomp _

end Reading

namespace Session

theorem answer_chomp (radix : Nat) (reading : Reading) :
    answer radix reading.chomp = answer radix reading := by
  cases reading with
  | line text => exact echo_chomp radix text
  | undecodable => rfl
  | endOfInput => rfl

theorem answer_receive (radix : Nat) (source : LineSource) (segment : Bytes) :
    answer radix (source.receive segment) = answer radix (.ofSegment segment) := by
  rw [LineSource.receive]
  split
  next => rfl
  next => exact answer_chomp radix _

/-- The requests of a session for the lines of standard input, one after another,
and the source at the end.  Each takes the next segment of the bytes that have
not been read. -/
inductive Conversation (radix : Nat) :
    Bytes → LineSource → List Exchange → LineSource → Prop
  | ended (source : LineSource) :
      Conversation radix [] source [⟨source.prompt, []⟩] source
  | answered {input segment rest : Bytes} {source next final : LineSource}
      {printed : List String} {exchanges : List Exchange}
      (taken : Text.nextSegment? input = some (segment, rest))
      (response : (respond radix source (source.receive segment)).value = (printed, next))
      (continued : Conversation radix rest next exchanges final) :
      Conversation radix input source (⟨source.prompt, printed⟩ :: exchanges) final

/-- The exchanges for the segments of an input, and the one at its end. -/
def segmentExchanges (radix : Nat) (prompt : String) (segments : List Bytes) :
    List Exchange :=
  exchanges prompt (segments.map fun segment =>
    (answer radix (.ofSegment segment)).value)

variable {radix : Nat} {input : Bytes} {source final : LineSource}
variable {exchanged : List Exchange}

theorem value_respond_receive (segment : Bytes) :
    (respond radix source (source.receive segment)).value =
      ((answer radix (.ofSegment segment)).value,
        source.rememberAll (Reading.ofSegment segment).entries) := by
  rw [respond_eq, Logged.value_map, answer_receive, Reading.entries_receive]

/-- A conversation has an exchange for each segment and one at the end of the
input, and remembers what was entered. -/
theorem conversation_segmentExchanges (radix : Nat) (input : Bytes) (source : LineSource) :
    Conversation radix input source
      (segmentExchanges radix source.prompt (Text.byteSegments input))
      (source.rememberAll (enteredEntries input)) := by
  -- Every request takes a whole segment, so those that are left bound the requests
  -- that are to come.
  generalize cut : Text.byteSegments input = segments
  induction segments generalizing input source with
  | nil =>
      have empty : input = [] := by
        rw [← Text.flatten_splitAfter (· == 0x0A) input, ← Text.byteSegments, cut]
        rfl
      have nothingEntered : enteredEntries [] = [] := rfl
      rw [empty, nothingEntered, LineSource.rememberAll_nil]
      exact .ended source
  | cons segment segments ih =>
      have nonempty : input ≠ [] := by
        rintro rfl
        cases cut
      obtain ⟨first, rest, taken⟩ := Text.exists_nextSegment? nonempty
      have cutFirst := Text.byteSegments_of_nextSegment? taken
      rw [cut, List.cons.injEq] at cutFirst
      obtain ⟨rfl, cutRest⟩ := cutFirst
      have entered : enteredEntries input =
          (Reading.ofSegment segment).entries ++ enteredEntries rest := by
        rw [enteredEntries, cut, List.flatMap_cons, cutRest]
        rfl
      rw [entered, ← LineSource.rememberAll_rememberAll]
      exact .answered taken (value_respond_receive segment) (ih rest _ cutRest.symm)

/-- A conversation is determined by its input and its source. -/
theorem Conversation.unique {others : List Exchange} {otherFinal : LineSource}
    (conversation : Conversation radix input source exchanged final)
    (other : Conversation radix input source others otherFinal) :
    exchanged = others ∧ final = otherFinal := by
  induction conversation generalizing others otherFinal with
  | ended =>
      cases other with
      | ended => exact ⟨rfl, rfl⟩
      | answered taken => cases taken
  | answered taken response continued ih =>
      cases other with
      | ended => cases taken
      | answered otherTaken otherResponse otherContinued =>
          rw [taken] at otherTaken
          cases otherTaken
          rw [response] at otherResponse
          cases otherResponse
          obtain ⟨rfl, rfl⟩ := ih otherContinued
          exact ⟨rfl, rfl⟩

theorem conversation_iff :
    Conversation radix input source exchanged final ↔
      exchanged = segmentExchanges radix source.prompt (Text.byteSegments input) ∧
        final = source.rememberAll (enteredEntries input) := by
  have conversation := conversation_segmentExchanges radix input source
  constructor
  · exact fun other => other.unique conversation
  · rintro ⟨rfl, rfl⟩
    exact conversation

end Session

/-! ## Sessions whose readings are at hand -/

/-- A source that is still to answer all of an input. -/
def LineSource.hearing (source : LineSource) (input : Bytes) : LineSource :=
  { source with pending := (Text.byteSegments input).map source.receive }

theorem Session.exchanges_run_hearing (radix : Nat) (source : LineSource) (input : Bytes) :
    (run radix (source.hearing input)).value.1 =
      segmentExchanges radix source.prompt (Text.byteSegments input) := by
  rw [run_eq, Logged.value_map, Logged.value_mapM, segmentExchanges]
  simp [LineSource.hearing, Function.comp_def, answer_receive]

theorem LineSource.history_finalSource_hearing (source : LineSource) (input : Bytes) :
    (Session.finalSource (source.hearing input)).history =
      (source.rememberAll (enteredEntries input)).history := by
  simp [Session.finalSource, hearing, rememberAll, enteredEntries, List.flatMap_map,
    Reading.entries_receive]

namespace Program

variable {arguments : List String} {options : Options} {files : FileStore}

/-- The prompt of the lines of standard input. -/
def inputPrompt (options : Options) : String :=
  if options.readline then "" else ">>> "

/-- Opening standard input reads nothing of it. -/
theorem exists_opening_hearing (files : FileStore) (noInputFile : options.inputFile = none) :
    ∃ opening, openSource options files.read [] = .ok opening ∧
      opening.source.prompt = inputPrompt options ∧
      ∀ input, openSource options files.read input =
        .ok ⟨opening.printed, opening.source.hearing input⟩ := by
  cases readline : options.readline with
  | true =>
      refine ⟨_, openSource_of_history files.read [] noInputFile readline, ?_,
        fun input => ?_⟩
      · rw [inputPrompt, if_pos readline]
        rfl
      · rw [openSource_of_history files.read input noInputFile readline]
        rfl
  | false =>
      refine ⟨⟨[], .prompted []⟩, by simp [openSource, noInputFile, readline], ?_,
        fun input => ?_⟩
      · rw [inputPrompt, if_neg (by simp [readline])]
        rfl
      · simp only [openSource, noInputFile, readline]
        rfl

/-- What is saved of a source is its history. -/
theorem saveHistory_eq_of_history_eq (options : Options) (files : FileStore)
    {source other : LineSource} (sameHistory : source.history = other.history) :
    saveHistory options files source = saveHistory options files other := by
  rw [saveHistory, saveHistory, LineSource.unsavedHistory?, LineSource.unsavedHistory?,
    sameHistory]

/-- A run prints the exchanges of a conversation, and saves the history that is
left at the end of it. -/
theorem run_of_conversation {input : Bytes} {opening : Opening} {exchanges : List Exchange}
    {final : LineSource}
    (parsed : CommandLine.parse arguments = .ok (.session options))
    (opened : openSource options files.read input =
      .ok ⟨opening.printed, opening.source.hearing input⟩)
    (conversation :
      Session.Conversation options.radix input opening.source exchanges final) :
    (run arguments files input).value.failure = none ∧
      (run arguments files input).value.stdout =
        Text.unlines opening.printed ++ Session.text exchanges ∧
      (run arguments files input).value.files = (saveHistory options files final).value := by
  obtain ⟨rfl, rfl⟩ := Session.conversation_iff.mp conversation
  obtain ⟨succeeded, printed⟩ := run_of_opening input parsed opened
  refine ⟨succeeded, ?_, ?_⟩
  · rw [printed, Session.exchanges_run_hearing]
  · rw [files_run_of_opening parsed opened, saveHistory_eq_of_history_eq options files
      (opening.source.history_finalSource_hearing input)]

end Program

end ExactInteger
