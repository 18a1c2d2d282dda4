import ExactInteger.Digit
import ExactInteger.Log
import ExactInteger.Text.Quoted
import ExactInteger.ValueError

/-!
# Integer literals

A literal is at most one sign followed by one or more digits of its radix.
Reading splits it into its sign and its digits, which checks every character,
and then computes the positional value of the digits.  A text that is no
literal is refused with the complete text, and the log says why.
-/

namespace ExactInteger

namespace Literal

def IsRadix (radix : Nat) : Prop :=
  2 ≤ radix ∧ radix ≤ 36

instance (radix : Nat) : Decidable (IsRadix radix) :=
  inferInstanceAs (Decidable (_ ∧ _))

structure Parts where
  negative : Bool
  digits : List Char
  deriving DecidableEq

inductive SplitError where
  | invalidRadix (radix : Nat)
  | missingDigits
  | invalidDigit (radix : Nat) (character : Char)
  deriving DecidableEq

def SplitError.message : SplitError → String
  | .invalidRadix radix => "Invalid base " ++ Decimal.ofNat radix ++ "."
  | .missingDigits => "Missing digits."
  | .invalidDigit radix character =>
      "Invalid digit for base " ++ Decimal.ofNat radix ++ ": " ++
        String.singleton character

/-- A text cut after its leading sign, if it has one. Only a minus makes it
negative. -/
def takeSign : List Char → Parts
  | '-' :: rest => ⟨true, rest⟩
  | '+' :: rest => ⟨false, rest⟩
  | text => ⟨false, text⟩

/-- What is wrong with the digits of a literal: there are none, or the first
character that is no digit of the radix. -/
def digitError? (radix : Nat) (digits : List Char) : Option SplitError :=
  if digits.isEmpty then
    some .missingDigits
  else
    (digits.find? (!Digit.belongsTo radix ·)).map (.invalidDigit radix)

/-- Cuts a literal into its sign and its digits, which are kept as they are
written. -/
def split (radix : Nat) (text : List Char) : Except SplitError Parts :=
  if IsRadix radix then
    match digitError? radix (takeSign text).digits with
    | some error => .error error
    | none => .ok (takeSign text)
  else
    .error (.invalidRadix radix)

/-- The positional value of a non-empty list of digits. -/
def magnitude? (radix : Nat) (digits : List Char) : Option Nat :=
  if digits.isEmpty then
    none
  else
    digits.foldlM
      (fun value character =>
        (Digit.ofRadix? radix character).map (value * radix + ·)) 0

/-- A way to convert digits of a radix to their value. -/
abbrev Conversion :=
  Nat → List Char → Option Int

def convert : Conversion :=
  fun radix digits => (magnitude? radix digits).map Int.ofNat

/-- Why a text is refused as a literal of an admissible radix. -/
inductive Refusal where
  | split (error : SplitError)
  | unconverted
  deriving DecidableEq

def Refusal.message : Refusal → String
  | .split error => error.message
  | .unconverted => "Could not parse digits."

/-- A magnitude with a sign. There is only one zero. -/
def signed (negative : Bool) (magnitude : Int) : Int :=
  if negative then -magnitude else magnitude

/-- The value of a literal whose digits are converted in the given way, or why
there is none. -/
def valueBy (conversion : Conversion) (radix : Nat) (text : List Char) :
    Except Refusal Int :=
  match split radix text with
  | .error error => .error (.split error)
  | .ok parts =>
      match conversion radix parts.digits with
      | none => .error .unconverted
      | some magnitude => .ok (signed parts.negative magnitude)

def refusalRecord (text : String) (refusal : Refusal) : LogRecord :=
  ⟨.debug, "rejecting integer literal " ++ Text.quoted text ++ ": " ++
    refusal.message⟩

/-- Reads an integer literal whose digits are converted in the given way. The
radix is checked before the text, and only a refused text is logged. -/
def readBy (conversion : Conversion) (radix : Nat) (text : String) :
    Logged (Except ValueError Int) :=
  if IsRadix radix then
    match valueBy conversion radix text.toList with
    | .ok number => pure (.ok number)
    | .error refusal => do
        Logged.emit (refusalRecord text refusal)
        pure (.error (.malformedLiteral text))
  else
    pure (.error (.invalidRadix radix))

def read (radix : Nat) (text : String) : Logged (Except ValueError Int) :=
  readBy convert radix text

def readDecimal (text : String) : Logged (Except ValueError Int) :=
  read 10 text

end Literal

end ExactInteger
