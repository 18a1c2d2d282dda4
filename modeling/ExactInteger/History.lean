import ExactInteger.Text.Utf8

/-!
# Entry histories

A history keeps the entries of a user, oldest first: never an empty one, never
two equal ones in a row, and never more than the last hundred.  It also knows
whether it holds anything that its file may lack.

A history file starts with the line `#V2` and then holds one entry a line, with
backslashes and line feeds written as escapes.  A file without that first line
is read too, every line of it being an entry as it stands.  Loading stops at
the first line that is no text: the entries before it are kept, and then they
count as not saved.
-/

namespace ExactInteger

/-- The entries of a user, oldest first, and whether any of them was added since
the history was last loaded or saved. -/
structure History where
  entries : List String
  unsaved : Bool
  deriving DecidableEq

namespace History

def capacity : Nat :=
  100

def empty : History :=
  ⟨[], false⟩

def newest {α : Type} (entries : List α) : List α :=
  entries.drop (entries.length - capacity)

/-- Adds an entry, unless it is empty or equal to the last one. -/
def add (history : History) (entry : String) : History :=
  if entry.isEmpty || history.entries.getLast? == some entry then
    history
  else
    ⟨newest (history.entries ++ [entry]), true⟩

/-! ## The file format -/

def header : List Char :=
  "#V2".toList

def escapedCharacter : Char → List Char
  | '\\' => ['\\', '\\']
  | '\n' => ['\\', 'n']
  | other => [other]

def escape (entry : List Char) : List Char :=
  entry.flatMap escapedCharacter

/-- The entry that a line of a history file stands for, if the line holds no
other escapes than those that are written. -/
def unescape? : List Char → Option (List Char)
  | [] => some []
  | '\\' :: 'n' :: rest => (unescape? rest).map ('\n' :: ·)
  | '\\' :: '\\' :: rest => (unescape? rest).map ('\\' :: ·)
  | '\\' :: _ => none
  | other :: rest => (unescape? rest).map (other :: ·)

/-- The entry that a line of a history file stands for. A line with an unknown
escape stands for itself. -/
def unescape (line : List Char) : List Char :=
  (unescape? line).getD line

def denoted : List (List Char) → List (List Char)
  | [] => []
  | first :: rest =>
      if first = header then rest.map unescape else first :: rest

/-- The text of a history file that holds the given entries. -/
def fileText (entries : List String) : List Char :=
  header ++ '\n' :: entries.flatMap fun entry => escape entry.toList ++ ['\n']

/-! ## Loading and saving -/

/-- The lines of a file up to the first that is no text, and whether there is
no such line. -/
def decodedLines (contents : Bytes) : List (List Char) × Bool :=
  let decoded := (Text.byteSegments contents).map Text.decode?
  ((decoded.takeWhile Option.isSome).filterMap (·.map Text.chomp),
    decoded.all Option.isSome)

/-- What loading a history file comes to: the history, and whether the file was
read to its end. -/
structure Loading where
  history : History
  complete : Bool

def load (contents : Bytes) : Loading :=
  let (lines, complete) := decodedLines contents
  let loaded := ((denoted lines).map String.ofList).foldl add empty
  ⟨if complete then { loaded with unsaved := false } else loaded, complete⟩

/-- The contents a history file is to be given, if there is anything to save. -/
def fileContents? (history : History) : Option Bytes :=
  if history.unsaved && !history.entries.isEmpty then
    some (Text.encode (fileText history.entries))
  else
    none

end History

end ExactInteger
