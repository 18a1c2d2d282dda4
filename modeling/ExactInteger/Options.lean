import ExactInteger.Decimal
import ExactInteger.Log
import ExactInteger.Text.Quoted

/-!
# Options

What a run of the program can be told: where its lines come from, which radix
its literals are written in, and where the entry history is kept.
-/

namespace ExactInteger

structure Options where
  /-- Whether lines from standard input are kept in a history. -/
  readline : Bool
  /-- The file to read lines from, instead of standard input. -/
  inputFile : Option String
  historyFile : String
  radix : Nat
  deriving DecidableEq

namespace Options

def defaultHistoryFile : String :=
  "history.txt"

def defaultRadix : Nat :=
  10

def switchText : Bool → String
  | true => "true"
  | false => "false"

def pathText : Option String → String
  | some path => "Some(" ++ Text.quoted path ++ ")"
  | none => "None"

def summary (options : Options) : String :=
  "Options \x7b enable_readline: " ++ switchText options.readline ++
    ", input_file: " ++ pathText options.inputFile ++
    ", history_file: " ++ Text.quoted options.historyFile ++
    ", radix: " ++ Decimal.ofNat options.radix ++ " \x7d"

def startRecord (options : Options) : LogRecord :=
  ⟨.debug, "starting with " ++ options.summary⟩

end Options

end ExactInteger
