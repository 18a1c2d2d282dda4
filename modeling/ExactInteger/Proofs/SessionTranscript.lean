import ExactInteger.Proofs.LineTokens
import ExactInteger.Session

/-!
# Transcripts of sessions

What is printed for a reading depends on the reading alone, and a reading adds
at most one entry to the history.  Hence a session answers its readings one by
one, each after the prompt, prints a last prompt at the end of the input, and
has remembered the entries of all readings in order.
-/

namespace ExactInteger

/-- The entries that a reading adds to a history. -/
def Reading.entries : Reading → List String
  | .line text =>
      if (Text.trim text).isEmpty then []
      else [String.ofList (Text.trim text)]
  | .undecodable => []
  | .endOfInput => []

/-- The source after entries were remembered one after another. -/
def LineSource.rememberAll (source : LineSource) (entries : List String) :
    LineSource :=
  { source with
    history := source.history.map fun history =>
      entries.foldl History.add history }

namespace LineSource

@[simp]
theorem rememberAll_nil (source : LineSource) :
    source.rememberAll [] = source := by
  cases source with
  | mk prompt pending history => cases history <;> rfl

@[simp]
theorem rememberAll_rememberAll (source : LineSource)
    (first second : List String) :
    (source.rememberAll first).rememberAll second =
      source.rememberAll (first ++ second) := by
  cases source with
  | mk prompt pending history => cases history <;> simp [rememberAll]

theorem remember_eq_rememberAll (source : LineSource) (entry : String) :
    source.remember entry = source.rememberAll [entry] :=
  rfl

end LineSource

namespace Session

/-- The lines printed for a reading. -/
def answer (radix : Nat) : Reading → Logged (List String)
  | .line text => echo radix text
  | .undecodable => pure ["Readline error: " ++ Text.undecodableMessage]
  | .endOfInput => pure []

theorem respond_eq (radix : Nat) (source : LineSource) (reading : Reading) :
    respond radix source reading =
      (fun printed => (printed, source.rememberAll reading.entries)) <$>
        answer radix reading := by
  cases reading with
  | undecodable => simp [respond, answer, Reading.entries]
  | endOfInput => simp [respond, answer, Reading.entries]
  | line text =>
      rw [respond, answer, Reading.entries]
      split
      next blank =>
        have nothingLeft : Text.trim text = [] := List.isEmpty_iff.mp blank
        have nothingPrinted : echo radix text = pure [] := by
          rw [← echo_trim, nothingLeft, echo_nil]
        simp [nothingPrinted]
      next notBlank =>
        simp [LineSource.remember_eq_rememberAll]

/-- The source at the end of a session. -/
def finalSource (source : LineSource) : LineSource :=
  { source.rememberAll (source.pending.flatMap Reading.entries) with
    pending := [] }

/-- The exchanges of a session, given what was printed for its readings. -/
def exchanges (prompt : String) (answers : List (List String)) : List Exchange :=
  answers.map (Exchange.mk prompt) ++ [⟨prompt, []⟩]

/-- The source that waits for the readings after the first one. -/
def afterReading (source : LineSource) (reading : Reading)
    (pending : List Reading) : LineSource :=
  { source with pending }.rememberAll reading.entries

theorem finalSource_of_pending_nil {source : LineSource}
    (pendingEq : source.pending = []) : finalSource source = source := by
  cases source with
  | mk prompt pending history => simp_all [finalSource]

theorem finalSource_afterReading {source : LineSource} {reading : Reading}
    {readings : List Reading} (pendingEq : source.pending = reading :: readings) :
    finalSource (afterReading source reading readings) = finalSource source := by
  cases source with
  | mk prompt pending history =>
      simp only at pendingEq
      subst pendingEq
      cases history <;>
        simp [finalSource, afterReading, LineSource.rememberAll]

theorem runPending_eq (radix : Nat) (readings : List Reading)
    (source : LineSource) (pendingEq : source.pending = readings) :
    runPending radix readings source =
      (fun answers => (exchanges source.prompt answers, finalSource source)) <$>
        readings.mapM (answer radix) := by
  induction readings generalizing source with
  | nil =>
      simp [runPending, exchanges, finalSource_of_pending_nil pendingEq]
  | cons reading readings ih =>
      have answered := ih (afterReading source reading readings) rfl
      rw [finalSource_afterReading pendingEq] at answered
      rw [runPending, respond_eq, List.mapM_cons]
      simp only [bind_map_left, map_bind]
      refine bind_congr fun printed => ?_
      rw [← afterReading, answered]
      simp only [Functor.map_map, map_pure, bind_pure_comp]
      rfl

/-- A session answers its readings in order, each after the prompt, and then
prints the prompt once more. -/
theorem run_eq (radix : Nat) (source : LineSource) :
    run radix source =
      (fun answers => (exchanges source.prompt answers, finalSource source)) <$>
        source.pending.mapM (answer radix) :=
  runPending_eq radix source.pending source rfl

theorem text_exchanges (prompt : String) (answers : List (List String)) :
    text (exchanges prompt answers) =
      String.join (answers.map fun printed => prompt ++ Text.unlines printed) ++
        prompt := by
  simp [text, exchanges, Function.comp_def, Exchange.text]

/-- What a session prints is determined by its prompt and its readings. -/
theorem text_run (radix : Nat) (source : LineSource) :
    text (run radix source).value.1 =
      String.join (source.pending.map fun reading =>
        source.prompt ++ Text.unlines (answer radix reading).value) ++
        source.prompt := by
  rw [run_eq, Logged.value_map, text_exchanges, Logged.value_mapM,
    List.map_map]
  rfl

end Session

end ExactInteger
