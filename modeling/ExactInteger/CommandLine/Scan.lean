import ExactInteger.CommandLine.Argument

/-!
# Scanning arguments

Arguments are scanned from left to right.  An option that takes a value takes
it after an equals sign, or from the next argument if that is a word; every
other word is the input file.  The first `--` ends the options, and whatever
follows it, a further `--` included, is the input file.  Requests for help or
the version, and arguments that are not expected, end the scan where they stand.
-/

namespace ExactInteger

namespace CommandLine

/-- How often an option was given, and the value it was given last. -/
structure Given where
  count : Nat
  value : Option String

def Given.none : Given :=
  ⟨0, Option.none⟩

def Given.again (given : Given) : Given :=
  { given with count := given.count + 1 }

structure Scan where
  /-- Whether `--` was met. -/
  ended : Bool
  /-- The option that the next argument may be the value of. -/
  pending : Option ValueOption
  noReadline : Nat
  radix : Given
  historyFile : Given
  inputFile : Option String

def Scan.empty : Scan :=
  ⟨false, none, 0, .none, .none, none⟩

/-- What ends a scan before the last argument. -/
inductive Stop where
  | help
  | version
  | unexpected (argument : String)
  deriving DecidableEq

namespace Scan

def mention (scan : Scan) : ValueOption → Scan
  | .radix => { scan with radix := scan.radix.again }
  | .historyFile => { scan with historyFile := scan.historyFile.again }

def assign (scan : Scan) (option : ValueOption) (value : String) : Scan :=
  match option with
  | .radix => { scan with radix := { scan.radix with value := some value } }
  | .historyFile =>
      { scan with
        historyFile := { scan.historyFile with value := some value } }

/-- The scan after an option that takes a value, with the value after its equals
sign if it had one. -/
def option (scan : Scan) (option : ValueOption) (value : Option (List Char)) :
    Scan :=
  match value with
  | some text =>
      { (scan.mention option).assign option (String.ofList text) with
        pending := none }
  | none => { scan.mention option with pending := some option }

def long (scan : Scan) (name : List Char) (value : Option (List Char)) :
    Except Stop Scan :=
  if name = "radix".toList then
    .ok (scan.option .radix value)
  else if name = "history-file".toList then
    .ok (scan.option .historyFile value)
  else if name = "no-readline".toList then
    .ok { scan with noReadline := scan.noReadline + 1, pending := none }
  else if name = "help".toList then
    .error .help
  else if name = "version".toList then
    .error .version
  else
    .error (.unexpected ("--" ++ String.ofList name))

def short (letter : Char) : Stop :=
  if letter = 'h' then .help
  else if letter = 'V' then .version
  else .unexpected (String.ofList ['-', letter])

/-- The scan after an argument that is the input file, unless there is one. -/
def positional (scan : Scan) (argument : String) : Except Stop Scan :=
  match scan.inputFile with
  | none => .ok { scan with inputFile := some argument }
  | some _ => .error (.unexpected argument)

/-- The scan after one more argument. After `--`, its form does not matter. -/
def argument (scan : Scan) (argument : String) : Except Stop Scan :=
  if scan.ended then
    scan.positional argument
  else
    match Form.of argument.toList with
    | .separator => .ok { scan with ended := true, pending := none }
    | .long name value => scan.long name value
    | .short letter => .error (short letter)
    | .word =>
        match scan.pending with
        | some option =>
            .ok { scan.assign option argument with pending := none }
        | none => scan.positional argument

def ofArguments (arguments : List String) : Except Stop Scan :=
  arguments.foldlM argument empty

end Scan

end CommandLine

end ExactInteger
