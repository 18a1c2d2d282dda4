import ExactInteger.LineSource
import ExactInteger.Proofs.Segmentation

/-!
# Replayed lines

A text is a sequence of lines and their terminators in one way only, once a carriage
return in front of a line feed counts to the terminator.  A source of the lines of a text
answers each request with the next line and, when there is none left, with the end of the
input, however often it is asked and whatever else it is told in between.
-/

namespace ExactInteger

namespace Text

/-! ## Lines with their terminators -/

inductive Ending where
  | absent
  | lineFeed
  | returnLineFeed

def Ending.characters : Ending → List Char
  | .absent => []
  | .lineFeed => ['\n']
  | .returnLineFeed => ['\r', '\n']

structure EndedLine where
  line : List Char
  ending : Ending

def EndedLine.characters (ended : EndedLine) : List Char :=
  ended.line ++ ended.ending.characters

/-- No line holds a line feed, and a line that ends with one has no carriage return
before it.  Only the last line may lack a terminator, and then it is not empty. -/
inductive IsDivision : List EndedLine → Prop
  | nil : IsDivision []
  | last {line : List Char} (nonempty : line ≠ []) (noLineFeed : '\n' ∉ line) :
      IsDivision [⟨line, .absent⟩]
  | lineFeed {line : List Char} {division : List EndedLine} (noLineFeed : '\n' ∉ line)
      (noReturn : line.getLast? ≠ some '\r') (isDivision : IsDivision division) :
      IsDivision (⟨line, .lineFeed⟩ :: division)
  | returnLineFeed {line : List Char} {division : List EndedLine} (noLineFeed : '\n' ∉ line)
      (isDivision : IsDivision division) :
      IsDivision (⟨line, .returnLineFeed⟩ :: division)

/-- The text that lines and their terminators are. -/
def joined (division : List EndedLine) : List Char :=
  division.flatMap EndedLine.characters

/-! ## Segments -/

/-- A segment as a line and its terminator. -/
def EndedLine.ofSegment (segment : List Char) : EndedLine :=
  match segment.reverse with
  | '\n' :: '\r' :: rest => ⟨rest.reverse, .returnLineFeed⟩
  | '\n' :: rest => ⟨rest.reverse, .lineFeed⟩
  | _ => ⟨segment, .absent⟩

theorem EndedLine.line_ofSegment (segment : List Char) :
    (ofSegment segment).line = chomp segment := by
  rw [ofSegment, chomp]
  split <;> simp_all

theorem EndedLine.characters_ofSegment (segment : List Char) :
    (ofSegment segment).characters = segment := by
  rw [ofSegment]
  split
  next rest reversed =>
    rw [← List.reverse_reverse segment, reversed]
    simp [characters, Ending.characters]
  next rest _ reversed =>
    rw [← List.reverse_reverse segment, reversed]
    simp [characters, Ending.characters]
  next => simp [characters, Ending.characters]

theorem EndedLine.ofSegment_of_noLineFeed {line : List Char} (noLineFeed : '\n' ∉ line) :
    ofSegment line = ⟨line, .absent⟩ := by
  rw [ofSegment]
  split
  next rest reversed =>
    exact absurd (List.mem_reverse.mp (reversed ▸ List.mem_cons_self)) noLineFeed
  next rest _ reversed =>
    exact absurd (List.mem_reverse.mp (reversed ▸ List.mem_cons_self)) noLineFeed
  next => rfl

theorem EndedLine.ofSegment_returnLineFeed (line : List Char) :
    ofSegment (line ++ ['\r'] ++ ['\n']) = ⟨line, .returnLineFeed⟩ := by
  simp [ofSegment]

theorem EndedLine.ofSegment_lineFeed {line : List Char}
    (noReturn : line.getLast? ≠ some '\r') :
    ofSegment (line ++ ['\n']) = ⟨line, .lineFeed⟩ := by
  rcases List.eq_nil_or_concat' line with rfl | ⟨body, last, rfl⟩
  · rfl
  · have other : last ≠ '\r' := by simpa using noReturn
    simp [ofSegment, other]

/-! ## Divisions -/

/-- A text as lines and their terminators. -/
def divide (text : List Char) : List EndedLine :=
  (segments text).map EndedLine.ofSegment

theorem lines_eq_map_divide (text : List Char) :
    lines text = (divide text).map EndedLine.line := by
  simp [lines, divide, EndedLine.line_ofSegment]

theorem joined_divide (text : List Char) : joined (divide text) = text := by
  simp [joined, divide, List.flatMap_map, EndedLine.characters_ofSegment, List.flatMap_id',
    segments]

theorem inner_iff_noLineFeed {line : List Char} :
    (∀ character ∈ line, (character == '\n') = false) ↔ '\n' ∉ line := by
  simp only [beq_eq_false_iff_ne]
  exact ⟨fun inner member => inner _ member rfl, fun noLineFeed _ member same =>
    noLineFeed (same ▸ member)⟩

theorem IsCut.isDivision {segments : List (List Char)}
    (isCut : IsCut (· == '\n') segments) :
    IsDivision (segments.map EndedLine.ofSegment) := by
  induction isCut with
  | nil => exact .nil
  | last nonempty inner =>
      have noLineFeed := inner_iff_noLineFeed.mp inner
      rw [List.map_singleton, EndedLine.ofSegment_of_noLineFeed noLineFeed]
      exact .last nonempty noLineFeed
  | cons inner isEnd isCut ih =>
      rename_i body terminator segments
      have noLineFeed := inner_iff_noLineFeed.mp inner
      obtain rfl : terminator = '\n' := eq_of_beq isEnd
      rw [List.map_cons]
      by_cases endsInReturn : body.getLast? = some '\r'
      · obtain ⟨line, rfl⟩ := List.getLast?_eq_some_iff.mp endsInReturn
        rw [EndedLine.ofSegment_returnLineFeed]
        exact .returnLineFeed (fun member => noLineFeed (List.mem_append_left _ member)) ih
      · rw [EndedLine.ofSegment_lineFeed endsInReturn]
        exact .lineFeed noLineFeed endsInReturn ih

theorem isDivision_divide (text : List Char) : IsDivision (divide text) :=
  (isCut_splitAfter text).isDivision

theorem divide_append_lineFeed {body : List Char} (noLineFeed : '\n' ∉ body)
    (rest : List Char) :
    divide (body ++ '\n' :: rest) = EndedLine.ofSegment (body ++ ['\n']) :: divide rest := by
  have cut : segments (body ++ '\n' :: rest) = (body ++ ['\n']) :: segments rest :=
    splitAfter_append_cons (inner_iff_noLineFeed.mpr noLineFeed) rfl
  rw [divide, cut, List.map_cons, divide]

/-- There is only one way to divide a text. -/
theorem IsDivision.divide_joined {division : List EndedLine}
    (isDivision : IsDivision division) : divide (joined division) = division := by
  induction isDivision with
  | nil => rfl
  | last nonempty noLineFeed =>
      rename_i line
      have alone : segments line = [line] :=
        splitAfter_eq_singleton nonempty (inner_iff_noLineFeed.mpr noLineFeed)
      have bare : joined [⟨line, .absent⟩] = line := by
        simp [joined, EndedLine.characters, Ending.characters]
      rw [bare, divide, alone, List.map_singleton,
        EndedLine.ofSegment_of_noLineFeed noLineFeed]
  | lineFeed noLineFeed noReturn isDivision ih =>
      rename_i line division
      have first : joined (⟨line, .lineFeed⟩ :: division) =
          line ++ '\n' :: joined division := by
        simp [joined, EndedLine.characters, Ending.characters]
      rw [first, divide_append_lineFeed noLineFeed, EndedLine.ofSegment_lineFeed noReturn, ih]
  | returnLineFeed noLineFeed isDivision ih =>
      rename_i line division
      have first : joined (⟨line, .returnLineFeed⟩ :: division) =
          (line ++ ['\r']) ++ '\n' :: joined division := by
        simp [joined, EndedLine.characters, Ending.characters]
      have stillNone : '\n' ∉ line ++ ['\r'] := by simpa using noLineFeed
      rw [first, divide_append_lineFeed stillNone, EndedLine.ofSegment_returnLineFeed, ih]

end Text

/-! ## Replaying -/

namespace LineSource

def Call.isNext : Call → Bool
  | .next => true
  | _ => false

/-- What a request for a line gives after some number of requests. -/
def readingAfter (lines : List (List Char)) (requests : Nat) : Reading :=
  match lines[requests]? with
  | some line => .line line
  | none => .endOfInput

/-- What a source of lines replies to a call after some number of requests. -/
def replyAfter (lines : List (List Char)) (requests : Nat) : Call → Reply
  | .next => .reading (readingAfter lines requests)
  | .remember _ => .remembered
  | .save => .toSave none

/-- A source that holds lines and nothing else. -/
structure Holds (source : LineSource) (lines : List (List Char)) : Prop where
  pending : source.pending = lines.map .line
  noHistory : source.history = none

theorem holds_ofText (text : List Char) : (ofText text).Holds (Text.lines text) :=
  ⟨rfl, rfl⟩

variable {source : LineSource} {lines : List (List Char)}

theorem Holds.remember (holds : source.Holds lines) (entry : String) :
    (source.remember entry).Holds lines :=
  ⟨holds.pending, by rw [LineSource.remember, holds.noHistory]; rfl⟩

theorem Holds.unsavedHistory? (holds : source.Holds lines) :
    source.unsavedHistory? = none := by
  rw [LineSource.unsavedHistory?, holds.noHistory]
  rfl

theorem Holds.next {requests : Nat} (holds : source.Holds (lines.drop requests)) :
    source.next.1 = readingAfter lines requests ∧
      source.next.2.Holds (lines.drop (requests + 1)) := by
  obtain ⟨pending, noHistory⟩ := holds
  rw [readingAfter, ← List.head?_drop, ← List.tail_drop]
  cases left : lines.drop requests with
  | nil =>
      rw [left, List.map_nil] at pending
      rw [LineSource.next, pending]
      exact ⟨rfl, pending, noHistory⟩
  | cons line rest =>
      rw [left, List.map_cons] at pending
      rw [LineSource.next, pending]
      exact ⟨rfl, rfl, noHistory⟩

/-- A call is answered from the lines that are left, and only a request takes one. -/
theorem Holds.call {requests : Nat} (holds : source.Holds (lines.drop requests))
    (call : Call) :
    (source.call call).1 = replyAfter lines requests call ∧
      (source.call call).2.Holds (lines.drop (requests + call.isNext.toNat)) := by
  cases call with
  | next =>
      obtain ⟨reading, stillHolds⟩ := holds.next
      exact ⟨congrArg Reply.reading reading, stillHolds⟩
  | remember entry => exact ⟨rfl, holds.remember entry⟩
  | save => exact ⟨congrArg Reply.toSave holds.unsavedHistory?, holds⟩

/-- Every call is answered by how many requests went before it. -/
theorem Holds.replies {requests : Nat} (holds : source.Holds (lines.drop requests))
    (calls : List Call) (index : Nat) :
    (source.replies calls)[index]? = calls[index]?.map
      (replyAfter lines (requests + (calls.take index).countP Call.isNext)) := by
  induction calls generalizing source requests index with
  | nil => rfl
  | cons call calls ih =>
      obtain ⟨reply, stillHolds⟩ := holds.call call
      cases index with
      | zero =>
          rw [LineSource.replies, List.getElem?_cons_zero, List.getElem?_cons_zero, reply]
          rfl
      | succ index =>
          have counted : ((call :: calls).take (index + 1)).countP Call.isNext =
              call.isNext.toNat + (calls.take index).countP Call.isNext := by
            rw [List.take_succ_cons, List.countP_cons, Nat.add_comm]
            cases call.isNext <;> rfl
          rw [LineSource.replies, List.getElem?_cons_succ, List.getElem?_cons_succ,
            ih stillHolds, counted, Nat.add_assoc]

/-- A text is lines and their terminators in exactly one way.  A source of its lines
replies to every call, whatever was called before, as the number of requests says: to a
request with the next of these lines, or with the end of the input after the last, and to
anything else with no effect. -/
theorem replay_division (text : List Char) :
    (∃! division, Text.IsDivision division ∧ Text.joined division = text) ∧
    ∀ division, Text.IsDivision division → Text.joined division = text →
      ∀ (calls : List Call) (index : Nat),
        ((ofText text).replies calls)[index]? = calls[index]?.map
          (replyAfter (division.map Text.EndedLine.line)
            ((calls.take index).countP Call.isNext)) := by
  constructor
  · refine ⟨Text.divide text, ⟨Text.isDivision_divide text, Text.joined_divide text⟩, ?_⟩
    rintro division ⟨isDivision, rfl⟩
    exact isDivision.divide_joined.symm
  · rintro division isDivision rfl calls index
    have holds := holds_ofText (Text.joined division)
    rw [Text.lines_eq_map_divide, isDivision.divide_joined] at holds
    rw [← List.drop_zero (l := division.map Text.EndedLine.line)] at holds
    simpa using holds.replies calls index

/-- A carriage return belongs to the line if no line feed follows, or if another carriage
return does. -/
theorem replay_division_returns :
    Text.IsDivision [⟨['\r'], .returnLineFeed⟩, ⟨[], .lineFeed⟩, ⟨['\r'], .absent⟩] ∧
    Text.joined [⟨['\r'], .returnLineFeed⟩, ⟨[], .lineFeed⟩, ⟨['\r'], .absent⟩] =
      "\r\r\n\n\r".toList ∧
    ((ofText "\r\r\n\n\r".toList).replies [.next, .save, .next, .remember "1", .next, .next])[4]? =
      some (.reading (.line ['\r'])) := by
  have isDivision : Text.IsDivision
      [⟨['\r'], .returnLineFeed⟩, ⟨[], .lineFeed⟩, ⟨['\r'], .absent⟩] :=
    .returnLineFeed (by decide) (.lineFeed (by decide) (by decide) (.last (by decide) (by decide)))
  have written : Text.joined [⟨['\r'], .returnLineFeed⟩, ⟨[], .lineFeed⟩, ⟨['\r'], .absent⟩] =
      "\r\r\n\n\r".toList := by decide
  obtain ⟨-, replayed⟩ := replay_division "\r\r\n\n\r".toList
  exact ⟨isDivision, written, replayed _ isDivision written _ 4⟩

end LineSource

end ExactInteger
