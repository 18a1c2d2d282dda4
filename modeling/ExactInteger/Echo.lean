import ExactInteger.Literal
import ExactInteger.Text.WhiteSpace
import ExactInteger.Value

/-!
# Echoing a line

Every token of a line is read as a literal and answered by one text: the
canonical decimal text of its value, or the error it caused.
-/

namespace ExactInteger

def outcomeText : Except ValueError Int → String
  | .ok number => pretty number
  | .error error => "error: " ++ error.message

def echo (radix : Nat) (line : List Char) : Logged (List String) :=
  (Text.tokens line).mapM fun token =>
    outcomeText <$> Literal.read radix (String.ofList token)

@[simp]
theorem echo_nil (radix : Nat) : echo radix [] = pure [] := by
  simp [echo]

end ExactInteger
