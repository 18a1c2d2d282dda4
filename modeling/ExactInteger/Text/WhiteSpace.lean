/-!
# White space and tokens

The white space of this library is the Unicode property `White_Space`.  A text
is cut at every white space character; its tokens are the pieces that are not
empty, in order.
-/

namespace ExactInteger

namespace Text

/-- The ranges of the Unicode property `White_Space`, both ends included. -/
def whiteSpaceRanges : List (Nat × Nat) :=
  [(0x9, 0xD), (0x20, 0x20), (0x85, 0x85), (0xA0, 0xA0), (0x1680, 0x1680),
    (0x2000, 0x200A), (0x2028, 0x2029), (0x202F, 0x202F), (0x205F, 0x205F),
    (0x3000, 0x3000)]

/-- Whether a character has the Unicode property `White_Space`. -/
def isWhiteSpace (character : Char) : Bool :=
  whiteSpaceRanges.any fun range =>
    range.1 ≤ character.toNat && character.toNat ≤ range.2

/-- A text without the white space at its two ends. -/
def trim (text : List Char) : List Char :=
  ((text.dropWhile isWhiteSpace).reverse.dropWhile isWhiteSpace).reverse

/-- The longest pieces of a text that hold no white space, in order. -/
def tokens (text : List Char) : List (List Char) :=
  (text.splitOnP isWhiteSpace).filter fun piece => !piece.isEmpty

@[simp]
theorem tokens_nil : tokens [] = [] := by
  simp [tokens]

/-- A white space character separates the tokens before it from those after
it. -/
theorem tokens_append_cons {character : Char}
    (blank : isWhiteSpace character = true) (first second : List Char) :
    tokens (first ++ character :: second) = tokens first ++ tokens second := by
  simp [tokens, List.splitOnP_append_cons _ _ blank]

/-- A text without white space is its only token. -/
theorem tokens_eq_singleton {text : List Char} (nonempty : text ≠ [])
    (solid : ∀ character ∈ text, isWhiteSpace character = false) :
    tokens text = [text] := by
  simp [tokens, List.splitOnP_eq_singleton solid, nonempty]

end Text

end ExactInteger
