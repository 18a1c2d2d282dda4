import ExactInteger.Proofs.LineReplay
import ExactInteger.Value

/-!
# Printed lines

Printing an object joins the lines that it is written as, so the last line has no
terminator.  With one more line feed the printed text is divided into the lines of the
object again, empty ones included, unless a line holds a line feed or ends in a carriage
return.  Consequently printing tells objects apart by their lines.
-/

namespace ExactInteger

/-- Lines that can be joined and cut apart again. -/
structure AreSeparable (lines : List String) : Prop where
  nonempty : lines ≠ []
  noLineFeed : ∀ line ∈ lines, '\n' ∉ line.toList
  noReturn : ∀ line ∈ lines, line.toList.getLast? ≠ some '\r'

namespace Text

/-! ## Joined lines -/

/-- Lines that all have a line feed for their terminator. -/
def terminated (lines : List String) : List EndedLine :=
  lines.map fun line => ⟨line.toList, .lineFeed⟩

theorem line_terminated (lines : List String) :
    (terminated lines).map EndedLine.line = lines.map String.toList := by
  simp [terminated, Function.comp_def]

theorem isDivision_terminated {lines : List String}
    (noLineFeed : ∀ line ∈ lines, '\n' ∉ line.toList)
    (noReturn : ∀ line ∈ lines, line.toList.getLast? ≠ some '\r') :
    IsDivision (terminated lines) := by
  induction lines with
  | nil => exact .nil
  | cons line lines ih =>
      rw [List.forall_mem_cons] at noLineFeed noReturn
      exact .lineFeed noLineFeed.1 noReturn.1 (ih noLineFeed.2 noReturn.2)

/-- One line feed is missing after joined lines. -/
theorem intercalate_append_lineFeed {lines : List String} (nonempty : lines ≠ []) :
    ("\n".intercalate lines ++ "\n").toList = joined (terminated lines) := by
  induction lines with
  | nil => exact absurd rfl nonempty
  | cons line lines ih =>
      cases lines with
      | nil => simp [joined, terminated, EndedLine.characters, Ending.characters]
      | cons next lines =>
          have rest := ih (List.cons_ne_nil next lines)
          have first : ("\n".intercalate (line :: next :: lines) ++ "\n").toList =
              line.toList ++ '\n' :: ("\n".intercalate (next :: lines) ++ "\n").toList := by
            simp
          rw [first, rest]
          simp [joined, terminated, EndedLine.characters, Ending.characters]

end Text

/-! ## Printed objects -/

variable {α β : Type} [Representation α] [Representation β]

theorem lines_pretty {object : α} (separable : AreSeparable (Representation.lines object)) :
    Text.lines (pretty object ++ "\n").toList =
      (Representation.lines object).map String.toList := by
  have isDivision := Text.isDivision_terminated separable.noLineFeed separable.noReturn
  rw [pretty, Text.intercalate_append_lineFeed separable.nonempty, Text.lines_eq_map_divide,
    isDivision.divide_joined, Text.line_terminated]

theorem pretty_eq_pretty_iff {object : α} {other : β}
    (separable : AreSeparable (Representation.lines object))
    (otherSeparable : AreSeparable (Representation.lines other)) :
    pretty object = pretty other ↔
      Representation.lines object = Representation.lines other := by
  constructor
  · intro same
    have sameLines := lines_pretty separable
    rw [same, lines_pretty otherSeparable] at sameLines
    have injective : Function.Injective String.toList := fun _ _ => String.toList_injective
    exact (List.map_injective_iff.mpr injective sameLines).symm
  · intro same
    rw [pretty, pretty, same]

namespace LineSource

theorem countP_take_requests {count index : Nat} (requested : index < count) :
    ((List.replicate count Call.next).take index).countP Call.isNext = index := by
  have isNext : Call.next.isNext = true := rfl
  rw [List.take_replicate, List.countP_replicate, if_pos isNext,
    Nat.min_eq_left (Nat.le_of_lt requested)]

/-- Requests take the lines that a source holds one by one, and then meet the end of the
input as often as they are made. -/
theorem Holds.replies_requests {source : LineSource} {lines : List (List Char)}
    (holds : source.Holds lines) (further : Nat) :
    source.replies (List.replicate (lines.length + further) .next) =
      lines.map (fun line => .reading (.line line)) ++
        List.replicate further (.reading .endOfInput) := by
  have holdsAll : source.Holds (lines.drop 0) := holds
  apply List.ext_getElem?
  intro index
  rw [holdsAll.replies, List.getElem?_replicate]
  split
  next requested =>
    rw [Option.map_some, countP_take_requests requested, Nat.zero_add, replyAfter, readingAfter]
    by_cases within : index < lines.length
    · rw [List.getElem?_append_left (by simpa using within), List.getElem?_map,
        List.getElem?_eq_getElem within]
      rfl
    · have after : lines.length ≤ index := Nat.le_of_not_lt within
      rw [List.getElem?_append_right (by simpa using after), List.getElem?_eq_none after,
        List.getElem?_replicate, if_pos (by simp; omega)]
  next notRequested =>
    rw [Option.map_none, eq_comm, List.getElem?_eq_none_iff]
    simpa using notRequested

/-- A printed object with a line feed after it is cut into the lines that the object is
written as: requests for lines are answered by these in order, and then by the end of the
input.  Two objects are printed alike exactly if they are written as the same lines. -/
theorem pretty_cut_back (object : α) (other : β)
    (separable : AreSeparable (Representation.lines object))
    (otherSeparable : AreSeparable (Representation.lines other)) :
    (∀ further,
      (ofText (pretty object ++ "\n").toList).replies
          (List.replicate ((Representation.lines object).length + further) .next) =
        (Representation.lines object).map (fun line => .reading (.line line.toList)) ++
          List.replicate further (.reading .endOfInput)) ∧
    (pretty object = pretty other ↔
      Representation.lines object = Representation.lines other) := by
  refine ⟨fun further => ?_, pretty_eq_pretty_iff separable otherSeparable⟩
  have holds := holds_ofText (pretty object ++ "\n").toList
  rw [lines_pretty separable] at holds
  simpa [Function.comp_def] using holds.replies_requests further

/-- Empty lines at both ends and in the middle are lines like others. -/
theorem pretty_cut_back_empty_lines :
    (AreSeparable ["", "(a", "", " b)", ""] ∧ AreSeparable ["", "(a", "", " b)"]) ∧
      (ofText (pretty ["", "(a", "", " b)", ""] ++ "\n").toList).replies
          (List.replicate 6 .next) =
        ["", "(a", "", " b)", ""].map (fun line => Reply.reading (.line line.toList)) ++
          [.reading .endOfInput] ∧
      pretty ["", "(a", "", " b)", ""] ≠ pretty ["", "(a", "", " b)"] := by
  have separable : AreSeparable ["", "(a", "", " b)", ""] :=
    ⟨by decide, by decide, by decide⟩
  have otherSeparable : AreSeparable ["", "(a", "", " b)"] :=
    ⟨by decide, by decide, by decide⟩
  obtain ⟨cutBack, same_iff⟩ :=
    pretty_cut_back ["", "(a", "", " b)", ""] ["", "(a", "", " b)"] separable otherSeparable
  exact ⟨⟨separable, otherSeparable⟩, cutBack 1, fun same => absurd (same_iff.mp same) (by decide)⟩

end LineSource

end ExactInteger
