import ExactInteger.Decimal

/-!
# Values and their representation

A value is written as a sequence of lines, so that a structured value could be
laid out over several of them; an integer takes one.  Printing joins the lines.
-/

namespace ExactInteger

inductive Value where
  | integer (number : Int)
  deriving DecidableEq

def Value.number : Value → Int
  | .integer number => number

/-- A type whose elements are written as lines of text. -/
class Representation (α : Type) where
  /-- The lines an element is written as. -/
  lines : α → List String

/-- An integer is written as its canonical decimal text. -/
instance : Representation Int where
  lines number := [Decimal.ofInt number]

instance : Representation Value where
  lines
    | .integer number => Representation.lines number

instance : Representation (List String) where
  lines := id

/-- The lines of a representation joined by line feeds. -/
def pretty {α : Type} [Representation α] (object : α) : String :=
  "\n".intercalate (Representation.lines object)

instance : ToString Value where
  toString := pretty

@[simp]
theorem pretty_int (number : Int) : pretty number = Decimal.ofInt number := by
  simp [pretty, Representation.lines]

@[simp]
theorem pretty_integer (number : Int) :
    pretty (Value.integer number) = Decimal.ofInt number := by
  simp [pretty, Representation.lines]

end ExactInteger
