import ExactInteger.Proofs.DecimalNumeral
import ExactInteger.Worksheet

/-!
# Runs of worksheets

A step of a worksheet adds one answer, and at most one register: only a value
that was made is stored, and a step that fails leaves all registers as they
were.  So do the steps of a run, however values are kept.  A way of keeping
values that gives each of them back does not show in the answers of a run, and
printing a value and reading the text back is such a way.  Hence a run may as
well compute on texts.
-/

namespace ExactInteger

namespace Worksheet

/-- A way of keeping the values that steps make. -/
abbrev Keeping :=
  Value → Logged (Except ValueError Value)

/-- The answers that a run gave and its registers. -/
abbrev Progress :=
  List Answer × List Value

/-- One more answer, and the registers that fit it. -/
inductive Extends : Progress → Progress → Prop
  | stored (answers : List Answer) (registers : List Value) (value : Value) :
      Extends (answers, registers)
        (answers ++ [.stored registers.length (pretty value)], registers ++ [value])
  | reported (answers : List Answer) (registers : List Value) (report : Report) :
      Extends (answers, registers) (answers ++ [.reported report], registers)
  | failed (answers : List Answer) (registers : List Value) (error : StepError) :
      Extends (answers, registers) (answers ++ [.failed error], registers)

variable {keep : Keeping}

/-! ## Steps -/

theorem extends_step (keep : Keeping) (answers : List Answer) (registers : List Value)
    (step : Step) :
    Extends (answers, registers)
      (answers ++ [(step.run keep registers).value.1], (step.run keep registers).value.2) := by
  simp only [Step.run, Logged.value_bind]
  cases (step.evaluate registers).value with
  | error error => exact .failed answers registers error
  | ok outcome =>
      cases outcome with
      | reported report => exact .reported answers registers report
      | made value =>
          simp only [Logged.value_bind]
          cases (keep value).value with
          | error error => exact .failed answers registers (.value error)
          | ok kept => exact .stored answers registers kept

/-- A way of keeping values is faithful if it gives every value back, whatever it
logs. -/
def Faithful (keep : Keeping) : Prop :=
  ∀ value, (keep value).value = .ok value

theorem faithful_keepValue : Faithful keepValue :=
  fun _ => rfl

/-- Every value is read back from its printed form. -/
theorem faithful_keepThroughText : Faithful keepThroughText := by
  rintro ⟨number⟩
  have readBack : (Literal.read 10 (pretty (Value.integer number))).value = .ok number := by
    rw [pretty_integer]
    exact Decimal.value_readDecimal_ofInt number
  rw [keepThroughText, readValue, Logged.value_bind, readBack]
  rfl

theorem Step.value_run_of_faithful (faithful : Faithful keep) (registers : List Value)
    (step : Step) :
    (step.run keep registers).value = (step.run keepValue registers).value := by
  simp only [Step.run, Logged.value_bind]
  cases (step.evaluate registers).value with
  | error error => rfl
  | ok outcome =>
      cases outcome with
      | reported report => rfl
      | made value => simp only [Logged.value_bind, faithful value, faithful_keepValue value]

/-! ## Runs -/

theorem value_run_cons (keep : Keeping) (registers : List Value) (step : Step)
    (steps : List Step) :
    (run keep registers (step :: steps)).value =
      ((step.run keep registers).value.1 ::
          (run keep (step.run keep registers).value.2 steps).value.1,
        (run keep (step.run keep registers).value.2 steps).value.2) :=
  rfl

/-- A run of one more step works on from the registers of the run before. -/
theorem value_run_concat (keep : Keeping) (registers : List Value) (steps : List Step)
    (step : Step) :
    (run keep registers (steps ++ [step])).value =
      ((run keep registers steps).value.1 ++
          [(step.run keep (run keep registers steps).value.2).value.1],
        (step.run keep (run keep registers steps).value.2).value.2) := by
  induction steps generalizing registers with
  | nil => rfl
  | cons first steps ih =>
      rw [List.cons_append, value_run_cons, ih, value_run_cons, List.cons_append]

theorem extends_run (keep : Keeping) (registers : List Value) (steps : List Step)
    (step : Step) :
    Extends (run keep registers steps).value
      (run keep registers (steps ++ [step])).value := by
  rw [value_run_concat]
  exact extends_step keep _ _ step

theorem value_run_of_faithful (faithful : Faithful keep) (registers : List Value)
    (steps : List Step) :
    (run keep registers steps).value = (run keepValue registers steps).value := by
  induction steps generalizing registers with
  | nil => rfl
  | cons step steps ih =>
      rw [value_run_cons, value_run_cons, step.value_run_of_faithful faithful, ih]

/-- Computing through text is computing on values.  A run that prints every value
that is made, and keeps what the text reads as, gives the same answers as the run
that keeps the values themselves, step for step, and has the same registers.
However values are kept, a further step adds one answer to those of a run, and it
adds a register exactly if it stores a value; a step that fails adds none, and
all earlier registers stay as they were. -/
theorem run_through_text (registers : List Value) (steps : List Step) :
    (run keepThroughText registers steps).value = (run keepValue registers steps).value ∧
      ∀ (keep : Keeping) (step : Step),
        Extends (run keep registers steps).value
          (run keep registers (steps ++ [step])).value :=
  ⟨value_run_of_faithful faithful_keepThroughText registers steps,
    fun keep step => extends_run keep registers steps step⟩

example :
    (run keepThroughText []
        [.read 16 "fF", .read 10 "1x", .widen ⟨true, 8⟩ 0x80, .apply "quotient" [0, 1],
          .apply "modulo" [0, 1, 2], .apply "abs" [2]]).value.2 =
      [.integer 255, .integer (-128), .integer (-1), .integer 1] := by
  decide

end Worksheet

end ExactInteger
