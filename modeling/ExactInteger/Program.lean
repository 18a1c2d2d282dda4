import ExactInteger.CommandLine
import ExactInteger.CommandLine.Help
import ExactInteger.FileStore
import ExactInteger.Session
import ExactInteger.Text.Lines

/-!
# The program

A run of the program is a function of its arguments, the files it finds and its
standard input.  It prints a text and leaves files behind; or it fails, and then
it prints nothing and leaves the files as they were.  Only the history file is
ever written, at the end of a session, and when that cannot be done the run
goes on with a warning in the log.
-/

namespace ExactInteger

namespace Program

inductive InputError where
  | file (error : FileError)
  | undecodable
  deriving DecidableEq

def InputError.message : InputError → String
  | .file error => error.message
  | .undecodable => Text.undecodableMessage

inductive Failure where
  | usage (error : CommandLine.UsageError)
  | unreadable (path : String) (error : InputError)
  deriving DecidableEq

def Failure.message : Failure → String
  | .usage error => "could not parse arguments: " ++ error.message
  | .unreadable path error => "could not read " ++ path ++ ": " ++ error.message

structure Outcome where
  stdout : String
  failure : Option Failure
  files : FileStore

/-- What is printed when there is no history to continue. -/
def noHistoryLine : String :=
  "No previous history."

/-- A session that is ready to start. -/
structure Opening where
  /-- The lines printed before the first request. -/
  printed : List String
  source : LineSource

def inputText (contents : Except FileError Bytes) :
    Except InputError (List Char) :=
  match contents with
  | .error error => .error (.file error)
  | .ok bytes =>
      match Text.decode? bytes with
      | none => .error .undecodable
      | some text => .ok text

/-- The history to continue, and the lines printed when it cannot be loaded. -/
def continuedHistory (contents : Except FileError Bytes) :
    List String × History :=
  match contents with
  | .error _ => ([noHistoryLine], .empty)
  | .ok bytes =>
      let loading := History.load bytes
      (if loading.complete then [] else [noHistoryLine], loading.history)

/-- The file that a session reads before its first request, if it reads one. -/
def consultedFile? (options : Options) : Option String :=
  match options.inputFile with
  | some path => some path
  | none => if options.readline then some options.historyFile else none

/-- Opens the line source that the options ask for, given how files are read. -/
def openSource (options : Options) (read : String → Except FileError Bytes)
    (input : Bytes) : Except Failure Opening :=
  match options.inputFile with
  | some path =>
      match inputText (read path) with
      | .error error => .error (.unreadable path error)
      | .ok text => .ok ⟨[], .ofText text⟩
  | none =>
      if options.readline then
        let (printed, history) :=
          continuedHistory (read options.historyFile)
        .ok ⟨printed, .withHistory input history⟩
      else
        .ok ⟨[], .prompted input⟩

def unsavedRecord (path : String) (error : FileError) : LogRecord :=
  ⟨.warn, "could not save history to " ++ path ++ ": " ++ error.message⟩

/-- The files after the history of a source was saved, if there is anything to
save. -/
def saveHistory (options : Options) (files : FileStore) (source : LineSource) :
    Logged FileStore :=
  match source.unsavedHistory? with
  | none => pure files
  | some contents =>
      match files.write options.historyFile contents with
      | .ok saved => pure saved
      | .error error => do
          Logged.emit (unsavedRecord options.historyFile error)
          pure files

def runSession (options : Options) (files : FileStore) (input : Bytes) :
    Logged Outcome := do
  Logged.emit options.startRecord
  match openSource options files.read input with
  | .error failure => pure ⟨"", some failure, files⟩
  | .ok opening => do
      let (exchanges, source) ← Session.run options.radix opening.source
      let saved ← saveHistory options files source
      pure ⟨Text.unlines opening.printed ++ Session.text exchanges, none, saved⟩

def run (arguments : List String) (files : FileStore) (input : Bytes) :
    Logged Outcome :=
  match CommandLine.parse arguments with
  | .error error => pure ⟨"", some (.usage error), files⟩
  | .ok .help => pure ⟨CommandLine.helpText, none, files⟩
  | .ok .version => pure ⟨CommandLine.versionText, none, files⟩
  | .ok (.session options) => runSession options files input

namespace Outcome

def status (outcome : Outcome) : UInt32 :=
  if outcome.failure.isSome then 1 else 0

/-- Everything that the process of a run prints: a failure is reported in the
place where its output would stand. Of a message about arguments this is the first
line, as far as `CommandLine.UsageError.message` goes. -/
def processText (outcome : Outcome) : String :=
  match outcome.failure with
  | none => outcome.stdout
  | some failure => outcome.stdout ++ "error: " ++ failure.message ++ "\n"

end Outcome

end Program

end ExactInteger
