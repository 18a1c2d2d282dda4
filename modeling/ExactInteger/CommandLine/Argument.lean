/-!
# Forms of arguments

An argument is told apart by the dashes in front of it: none or one alone, one
before a letter, two alone, or two and more before the name of an option, which
a value may follow after an equals sign.
-/

namespace ExactInteger

namespace CommandLine

inductive ValueOption where
  | radix
  | historyFile
  deriving DecidableEq

def ValueOption.name : ValueOption → String
  | .radix => "radix"
  | .historyFile => "history-file"

/-- The forms an argument can have before `--`. -/
inductive Form where
  /-- The argument `--` itself. -/
  | separator
  /-- Two dashes or more, a name, and possibly a value after an equals sign. -/
  | long (name : List Char) (value : Option (List Char))
  /-- One dash and a letter. Whatever follows the letter is not looked at. -/
  | short (letter : Char)
  /-- Anything else, a lone dash included. -/
  | word
  deriving DecidableEq

/-- The value after the first equals sign of an option, if it has one. Further
equals signs in front of the value do not belong to it. -/
def valueAfterEquals (text : List Char) : Option (List Char) :=
  match text.dropWhile (· != '=') with
  | [] => none
  | _ :: value => some (value.dropWhile (· == '='))

def Form.of (argument : List Char) : Form :=
  match argument with
  | ['-', '-'] => .separator
  | '-' :: '-' :: rest =>
      let text := rest.dropWhile (· == '-')
      .long (text.takeWhile (· != '=')) (valueAfterEquals text)
  | '-' :: letter :: _ => .short letter
  | _ => .word

end CommandLine

end ExactInteger
