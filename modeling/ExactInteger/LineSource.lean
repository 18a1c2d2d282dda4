import ExactInteger.History
import ExactInteger.Text.WhiteSpace

/-!
# Line sources

A line source answers requests for lines until its input ends, and may keep
the entries it is told to remember in a history.  There are three: the lines of
a file, standard input behind a prompt, and standard input with a history.  The
lines of a file are cut from its text.  Standard input is cut into segments
after every line feed byte, and a segment that is no text gives no line; with a
history the terminator of a line is taken off, behind a prompt it is kept.
-/

namespace ExactInteger

inductive Reading where
  | line (text : List Char)
  | undecodable
  | endOfInput
  deriving DecidableEq

/-- The reading of a segment of standard input, line terminator included. -/
def Reading.ofSegment (segment : Bytes) : Reading :=
  match Text.decode? segment with
  | some text => .line text
  | none => .undecodable

/-- A reading without the line terminator. -/
def Reading.chomp : Reading → Reading
  | .line text => .line (Text.chomp text)
  | .undecodable => .undecodable
  | .endOfInput => .endOfInput

structure LineSource where
  /-- What is printed before each line is requested. -/
  prompt : String
  /-- The readings that are still to come, before the end of the input. -/
  pending : List Reading
  /-- The history of the source, if it keeps one. -/
  history : Option History

namespace LineSource

/-- The lines of a text. There is no prompt and no history. -/
def ofText (text : List Char) : LineSource :=
  ⟨"", (Text.lines text).map .line, none⟩

/-- Standard input behind a prompt. -/
def prompted (input : Bytes) : LineSource :=
  ⟨">>> ", (Text.byteSegments input).map Reading.ofSegment, none⟩

/-- Standard input with a history, and without a prompt. -/
def withHistory (input : Bytes) (history : History) : LineSource :=
  ⟨"", (Text.byteSegments input).map fun segment =>
    (Reading.ofSegment segment).chomp, some history⟩

/-- How a source takes a segment of standard input that has arrived. -/
def receive (source : LineSource) (segment : Bytes) : Reading :=
  match source.history with
  | none => .ofSegment segment
  | some _ => (Reading.ofSegment segment).chomp

def next (source : LineSource) : Reading × LineSource :=
  match source.pending with
  | [] => (.endOfInput, source)
  | reading :: pending => (reading, { source with pending })

/-- Remembers an entry, in a source that keeps a history. -/
def remember (source : LineSource) (entry : String) : LineSource :=
  { source with history := source.history.map (·.add entry) }

/-- The contents that the history file of a source is to be given, if the source
keeps a history and has anything to save. -/
def unsavedHistory? (source : LineSource) : Option Bytes :=
  source.history.bind History.fileContents?

/-! ## Calls -/

inductive Call where
  | next
  | remember (entry : String)
  | save

/-- What a line source replies to a call. -/
inductive Reply where
  | reading (reading : Reading)
  | remembered
  /-- The contents that the history file is to be given, if any. -/
  | toSave (contents : Option Bytes)
  deriving DecidableEq

/-- Takes one call: the reply to it, and the source after it. -/
def call (source : LineSource) : Call → Reply × LineSource
  | .next => (.reading source.next.1, source.next.2)
  | .remember entry => (.remembered, source.remember entry)
  | .save => (.toSave source.unsavedHistory?, source)

/-- The replies to calls, taken one after another. -/
def replies : LineSource → List Call → List Reply
  | _, [] => []
  | source, call :: calls =>
      (source.call call).1 :: replies (source.call call).2 calls

end LineSource

end ExactInteger
