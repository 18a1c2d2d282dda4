import ExactInteger.Program

/-!
# The executable

The program on a real file system and real streams.  The file that a session
consults is read first; lines from standard input are answered one by one, as
they arrive; the history is saved at the end.

The executable shows what a run prints, its status and its files, and no log: the
records of `Logged` computations are dropped here, and with them the warning that a
history could not be saved.
-/

namespace ExactInteger

namespace Program

/-- The number of an error. Some system calls report it with a minus sign. -/
def errorNumber (code : UInt32) : Nat :=
  code.toInt32.toInt.natAbs

/-- The cause of an error with a number and a description. -/
def numberedError (code : UInt32) (description : String) : FileError :=
  let number := errorNumber code
  let known : List FileError :=
    [.notFound, .notDirectory, .isDirectory, .nameTooLong]
  (known.find? (·.code? == some number)).getD (.other description number)

/-- The cause of an error that the operating system reported. -/
def fileError : IO.Error → FileError
  | .noFileOrDirectory .. => .notFound
  | .inappropriateType _ code description => numberedError code description
  | .permissionDenied _ code description => numberedError code description
  | .invalidArgument _ code description => numberedError code description
  | .otherError code description => numberedError code description
  | error => .other (toString error) 0

def readFile (path : String) : IO (Except FileError Bytes) := do
  match FileStore.pathError? path with
  | some error => pure (.error error)
  | none =>
      try
        pure (.ok (← IO.FS.readBinFile path).toList)
      catch error =>
        pure (.error (fileError error))

/-- Reads standard input up to and including the next line feed. Nothing is read
at the end of the input. -/
partial def readSegment (input : IO.FS.Stream) (segment : ByteArray) :
    IO ByteArray := do
  let byte ← input.read 1
  if byte.isEmpty || byte.toList == [0x0A] then
    pure (segment ++ byte)
  else
    readSegment input (segment ++ byte)

def print (text : String) : IO Unit := do
  let output ← IO.getStdout
  output.putStr text
  output.flush

/-- Answers the lines of standard input until it ends. -/
partial def converse (radix : Nat) (input : IO.FS.Stream)
    (source : LineSource) : IO LineSource := do
  print source.prompt
  let segment ← readSegment input ByteArray.empty
  if segment.isEmpty then
    pure source
  else
    let (printed, afterReading) :=
      (Session.respond radix source (source.receive segment.toList)).value
    print (Text.unlines printed)
    converse radix input afterReading

/-- Saves the history of a source, if there is anything to save. A failure
changes nothing else, and the warning of it is dropped. -/
def save (path : String) (source : LineSource) : IO Unit := do
  match source.unsavedHistory? with
  | none => pure ()
  | some contents =>
      try
        IO.FS.writeBinFile path contents.toByteArray
      catch _ =>
        pure ()

def finish (outcome : Outcome) : IO UInt32 := do
  print outcome.processText
  pure outcome.status

def converseWith (options : Options) : IO UInt32 := do
  let contents ←
    match consultedFile? options with
    | some path => readFile path
    | none => pure (.ok [])
  match openSource options (fun _ => contents) [] with
  | .error failure => finish ⟨"", some failure, .empty⟩
  | .ok opening => do
      print (Text.unlines opening.printed)
      if options.inputFile.isSome then
        let (exchanges, _) := (Session.run options.radix opening.source).value
        print (Session.text exchanges)
      else
        let source ←
          converse options.radix (← IO.getStdin) opening.source
        save options.historyFile source
      pure 0

end Program

end ExactInteger

def main (arguments : List String) : IO UInt32 :=
  match ExactInteger.CommandLine.parse arguments with
  | .ok (.session options) => ExactInteger.Program.converseWith options
  | _ =>
      ExactInteger.Program.finish
        (ExactInteger.Program.run arguments .empty []).value
