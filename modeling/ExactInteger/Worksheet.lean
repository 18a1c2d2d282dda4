import ExactInteger.Literal
import ExactInteger.Native
import ExactInteger.Primitive

/-!
# Worksheets

A worksheet is a numbered list of registers, each holding a value, and a run
works through a list of steps.  A step that makes a value puts it into a new
register; a step that only asks about registers leaves them alone; a step that
fails leaves them alone too, and the run goes on.

How a made value is kept is a parameter of a run: as it is, or by reading its
printed form back.
-/

namespace ExactInteger

namespace Worksheet

/-- One step of a worksheet. Registers are numbered from zero. -/
inductive Step where
  | read (radix : Nat) (text : String)
  | exact (number : Int)
  | widen (format : NativeFormat) (word : BitVec format.bits)
  /-- Applies the primitive with a given name to registers. -/
  | apply (name : String) (registers : List Nat)
  /-- Wraps the integer of a register again. -/
  | rewrap (register : Nat)
  | reread (register : Nat)
  | narrow (register : Nat)
  | inspect (register : Nat)
  | compare (first second : Nat)

/-- The place of a register number in a step. -/
inductive Operand where
  | first
  | second
  | arguments
  deriving DecidableEq

inductive StepError where
  | value (error : ValueError)
  | unknownPrimitive (name : String)
  | noRegister (operand : Operand)
  deriving DecidableEq

inductive Report where
  | narrowed (word : Except ValueError Int64)
  | inspected (value : Value)
  | compared (first second : Value)

/-- What a step comes to: a value that was made, or a report. -/
inductive Outcome where
  | made (value : Value)
  | reported (report : Report)

inductive Answer where
  | stored (register : Nat) (text : String)
  | reported (report : Report)
  | failed (error : StepError)

def readValue (radix : Nat) (text : String) :
    Logged (Except ValueError Value) := do
  pure ((← Literal.read radix text).map Value.integer)

def keepValue (value : Value) : Logged (Except ValueError Value) :=
  pure (.ok value)

/-- Keeps what reading the decimal text of a value gives. -/
def keepThroughText (value : Value) : Logged (Except ValueError Value) :=
  readValue 10 (pretty value)

def fetch (registers : List Value) (operand : Operand) (register : Nat) :
    Except StepError Value :=
  match registers[register]? with
  | some value => .ok value
  | none => .error (.noRegister operand)

def attempted (attempt : Except ValueError Value) : Except StepError Outcome :=
  (attempt.mapError .value).map .made

/-- Evaluates a step over the registers. Registers are looked up before the name
of a primitive is. -/
def Step.evaluate (registers : List Value) :
    Step → Logged (Except StepError Outcome)
  | .read radix text => attempted <$> readValue radix text
  | .exact number => pure (.ok (.made (.integer number)))
  | .widen format word => pure (.ok (.made (.integer (format.widen word))))
  | .apply name arguments =>
      match arguments.mapM (fetch registers .arguments) with
      | .error error => pure (.error error)
      | .ok values =>
          match Primitive.lookup name with
          | none => pure (.error (.unknownPrimitive name))
          | some primitive => attempted <$> primitive.apply values
  | .rewrap register =>
      pure ((fetch registers .first register).map fun value =>
        .made (.integer value.number))
  | .reread register =>
      match fetch registers .first register with
      | .error error => pure (.error error)
      | .ok value => attempted <$> keepThroughText value
  | .narrow register =>
      pure ((fetch registers .first register).map fun value =>
        .reported (.narrowed (ExactInteger.narrow value.number)))
  | .inspect register =>
      pure ((fetch registers .first register).map fun value =>
        .reported (.inspected value))
  | .compare first second =>
      pure do
        let firstValue ← fetch registers .first first
        let secondValue ← fetch registers .second second
        pure (.reported (.compared firstValue secondValue))

/-- Runs one step: its answer and the registers after it. -/
def Step.run (keep : Value → Logged (Except ValueError Value))
    (registers : List Value) (step : Step) : Logged (Answer × List Value) := do
  match ← step.evaluate registers with
  | .error error => pure (.failed error, registers)
  | .ok (.reported report) => pure (.reported report, registers)
  | .ok (.made value) =>
      match ← keep value with
      | .error error => pure (.failed (.value error), registers)
      | .ok kept =>
          pure (.stored registers.length (pretty kept), registers ++ [kept])

/-- Runs steps one after another: their answers and the registers at the end. -/
def run (keep : Value → Logged (Except ValueError Value)) :
    List Value → List Step → Logged (List Answer × List Value)
  | registers, [] => pure ([], registers)
  | registers, step :: steps => do
      let (answer, afterStep) ← step.run keep registers
      (fun (answers, afterAll) => (answer :: answers, afterAll)) <$>
        run keep afterStep steps

end Worksheet

end ExactInteger
