import ExactInteger.Proofs.HistoryRuns
import Mathlib.Data.List.DropRight

/-!
# Histories as a whole

Entries reach a history one at a time, first those of the history file and then
those that are entered.  Each of them is compared with the last entry that was
kept, and the oldest one is given up when there are too many.  What comes of it
depends on all the entries at once: the entries without repetitions, the last
hundred of them, and whether those that were entered have made them any more.
This is the state after each entry, and so the state at the end of a run.
-/

namespace ExactInteger

namespace History

/-! ## Repetitions -/

/-- An entry as it stands on its line: a backslash is written twice, and a line
feed as a backslash and an n. -/
def written (entry : String) : String :=
  String.ofList (entry.toList.flatMap fun character =>
    if character = '\\' then ['\\', '\\']
    else if character = '\n' then ['\\', 'n']
    else [character])

/-- What reading a history file came to, and the entries that the file denotes:
none if there is no such file, and those of its lines if all of them are text. -/
inductive Holds : Except FileError Bytes → List String → Prop
  | absent (error : FileError) : Holds (.error error) []
  | loads {contents : Bytes} (decodable : Text.SegmentsDecodable contents) :
      Holds (.ok contents) (entriesIn contents)

end History

namespace Program

variable {arguments : List String} {options : Options} {files : FileStore}

end Program

end ExactInteger
