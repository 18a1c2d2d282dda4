import ExactInteger.CommandLine.Scan
import ExactInteger.Literal
import ExactInteger.Options
import ExactInteger.Word32

/-!
# Command lines

What the arguments of a run ask for: help, the version, or a session with
certain options.  Whatever ends the scan of the arguments decides first; then
options given more than once are refused; the radix is read last, and has to be
one that literals can be written in.  Of a message about arguments that takes
several lines, only the first is modelled.
-/

namespace ExactInteger

namespace CommandLine

inductive OnceOption where
  | noReadline
  | value (option : ValueOption)
  deriving DecidableEq

/-- An option as it is shown when it was given twice. -/
def OnceOption.text : OnceOption → String
  | .noReadline => "--no-readline"
  | .value option => "--" ++ option.name ++ " <" ++ option.name ++ ">"

inductive UsageError where
  | unexpected (argument : String)
  | repeated (option : OnceOption)
  | radixText (error : Word32.Error)
  | radixRange (radix : Nat)
  deriving DecidableEq

/-- The first line of what is said about an error. The argument parser goes on after an
argument that is not expected or an option that was repeated: it shows how the program
is used, and sometimes what may have been meant. Those lines are left out here. -/
def UsageError.message : UsageError → String
  | .unexpected argument =>
      "error: Found argument '" ++ argument ++
        "' which wasn't expected, or isn't valid in this context"
  | .repeated option =>
      "error: The argument '" ++ option.text ++
        "' was provided more than once, but cannot be used multiple times"
  | .radixText error => "invalid radix: " ++ error.message
  | .radixRange radix =>
      "invalid radix " ++ Decimal.ofNat radix ++ ", expecting 2 to 36"

inductive Request where
  | help
  | version
  | session (options : Options)
  deriving DecidableEq

/-- An option that was given more than once, if there is one. Which one it is if there
are several is a choice made here, since the argument parser meets them in the order of
a hash map. -/
def Scan.repeated? (scan : Scan) : Option OnceOption :=
  if 1 < scan.noReadline then some .noReadline
  else if 1 < scan.radix.count then some (.value .radix)
  else if 1 < scan.historyFile.count then some (.value .historyFile)
  else none

def readRadix (text : Option String) : Except UsageError Nat :=
  match text with
  | none => .ok Options.defaultRadix
  | some text =>
      match Word32.read text.toList with
      | .error error => .error (.radixText error)
      | .ok radix =>
          if Literal.IsRadix radix then .ok radix
          else .error (.radixRange radix)

def Scan.options (scan : Scan) : Except UsageError Options :=
  match scan.repeated? with
  | some option => .error (.repeated option)
  | none =>
      (readRadix scan.radix.value).map fun radix =>
        { readline := scan.noReadline == 0
          inputFile := scan.inputFile
          historyFile := scan.historyFile.value.getD Options.defaultHistoryFile
          radix }

/-- What the arguments of a run ask for. -/
def parse (arguments : List String) : Except UsageError Request :=
  match Scan.ofArguments arguments with
  | .ok scan => scan.options.map Request.session
  | .error .help => .ok .help
  | .error .version => .ok .version
  | .error (.unexpected argument) => .error (.unexpected argument)

theorem isRadix_of_readRadix {text : Option String} {radix : Nat}
    (accepted : readRadix text = .ok radix) : Literal.IsRadix radix := by
  cases text with
  | none =>
      cases accepted
      decide
  | some text =>
      simp only [readRadix] at accepted
      split at accepted
      next => cases accepted
      next =>
        split at accepted
        next isRadix =>
          cases accepted
          exact isRadix
        next => cases accepted

/-- Arguments are accepted only with a radix that literals can be written in. -/
theorem isRadix_of_parse {arguments : List String} {options : Options}
    (parsed : parse arguments = .ok (.session options)) :
    Literal.IsRadix options.radix := by
  rw [parse] at parsed
  split at parsed
  next scan scanned =>
    rw [Scan.options] at parsed
    split at parsed
    next => cases parsed
    next =>
      cases accepted : readRadix scan.radix.value with
      | error error =>
          rw [accepted] at parsed
          cases parsed
      | ok radix =>
          rw [accepted] at parsed
          cases parsed
          exact isRadix_of_readRadix accepted
  all_goals cases parsed

end CommandLine

end ExactInteger
