/-!
# Lines

A line ends with a line feed or with a carriage return and a line feed.  A text
is first cut after every line feed, so that the segments put one after another
are the text again; the terminator of each segment is then taken off.  A final
terminator starts no further line, and a carriage return that no line feed
follows belongs to its line.
-/

namespace ExactInteger

namespace Text

/-- A list cut after every element that satisfies a predicate.  No segment is
empty, and the segments put one after another are the list. -/
def splitAfter {α : Type} (ends : α → Bool) : List α → List (List α)
  | [] => []
  | head :: tail =>
      if ends head then
        [head] :: splitAfter ends tail
      else
        match splitAfter ends tail with
        | [] => [[head]]
        | segment :: segments => (head :: segment) :: segments

@[simp]
theorem splitAfter_nil {α : Type} (ends : α → Bool) : splitAfter ends [] = [] :=
  rfl

@[simp]
theorem flatten_splitAfter {α : Type} (ends : α → Bool) (list : List α) :
    (splitAfter ends list).flatten = list := by
  induction list with
  | nil => rfl
  | cons head tail ih =>
      rw [splitAfter]
      split
      · simp [ih]
      · split <;> simp_all

/-- A segment without its line terminator. -/
def chomp (segment : List Char) : List Char :=
  match segment.reverse with
  | '\n' :: '\r' :: rest => rest.reverse
  | '\n' :: rest => rest.reverse
  | _ => segment

/-- The segments of a text: each ends with a line feed, except perhaps the
last. -/
def segments (text : List Char) : List (List Char) :=
  splitAfter (· == '\n') text

/-- The lines of a text, without their terminators. -/
def lines (text : List Char) : List (List Char) :=
  (segments text).map chomp

/-- What a text holds before its first line feed. A carriage return there is
kept. -/
def beforeLineFeed (text : String) : String :=
  String.ofList (text.toList.takeWhile (· != '\n'))

/-- Lines written one after another, each followed by a line feed. -/
def unlines (lines : List String) : String :=
  String.join (lines.map (· ++ "\n"))

@[simp]
theorem unlines_nil : unlines [] = "" := by
  simp [unlines]

theorem unlines_append (first second : List String) :
    unlines (first ++ second) = unlines first ++ unlines second := by
  simp [unlines]

theorem unlines_flatMap {α : Type} (list : List α)
    (written : α → List String) :
    unlines (list.flatMap written) =
      String.join (list.map fun element => unlines (written element)) := by
  induction list with
  | nil => simp
  | cons element list ih => simp [unlines_append, ih]

end Text

end ExactInteger
