import ExactInteger.Text.Utf8
import Mathlib.Data.List.Basic

/-!
# Segments of texts and of bytes

Cutting after every end element is the only way to cut a list so that the
segments end where the list says.  Taking the terminator off a line that was
written with a line feed gives the line back, but for a carriage return at its
end.  A line feed is encoded as one byte that occurs in the encoding of no other
character, so cutting a text and cutting its encoding agree.  Consequently bytes
encode a text exactly when each of their segments does.
-/

namespace ExactInteger

namespace Text

variable {α : Type} {ends : α → Bool}

/-- No segment is empty, an end element stands nowhere but at the end of a
segment, and every segment except perhaps the last ends with one. -/
inductive IsCut (ends : α → Bool) : List (List α) → Prop
  | nil : IsCut ends []
  | last {segment : List α} (nonempty : segment ≠ [])
      (inner : ∀ element ∈ segment, ends element = false) :
      IsCut ends [segment]
  | cons {body : List α} {terminator : α} {segments : List (List α)}
      (inner : ∀ element ∈ body, ends element = false)
      (isEnd : ends terminator = true) (isCut : IsCut ends segments) :
      IsCut ends ((body ++ [terminator]) :: segments)

theorem IsCut.cons_head {head : α} {segment : List α}
    {segments : List (List α)} (noEnd : ends head = false)
    (isCut : IsCut ends (segment :: segments)) :
    IsCut ends ((head :: segment) :: segments) := by
  cases isCut with
  | last nonempty inner =>
      exact .last (by simp) (List.forall_mem_cons.mpr ⟨noEnd, inner⟩)
  | cons inner isEnd isCut =>
      exact .cons (List.forall_mem_cons.mpr ⟨noEnd, inner⟩) isEnd isCut

theorem isCut_splitAfter (list : List α) : IsCut ends (splitAfter ends list) := by
  induction list with
  | nil => exact .nil
  | cons head tail ih =>
      rw [splitAfter]
      split
      next isEnd =>
        exact IsCut.cons (List.forall_mem_nil (ends · = false)) isEnd ih
      next noEnd =>
        have noEnd : ends head = false := Bool.eq_false_iff.mpr noEnd
        split
        next => exact .last (by simp) (by simp [noEnd])
        next segment segments cut =>
          rw [cut] at ih
          exact ih.cons_head noEnd

theorem splitAfter_append_cons {body rest : List α} {terminator : α}
    (inner : ∀ element ∈ body, ends element = false)
    (isEnd : ends terminator = true) :
    splitAfter ends (body ++ terminator :: rest) =
      (body ++ [terminator]) :: splitAfter ends rest := by
  induction body with
  | nil => simp [splitAfter, isEnd]
  | cons head body ih =>
      rw [List.forall_mem_cons] at inner
      rw [List.cons_append, splitAfter, ih inner.2]
      simp [inner.1]

theorem splitAfter_eq_singleton {segment : List α} (nonempty : segment ≠ [])
    (inner : ∀ element ∈ segment, ends element = false) :
    splitAfter ends segment = [segment] := by
  induction segment with
  | nil => exact absurd rfl nonempty
  | cons head tail ih =>
      rw [List.forall_mem_cons] at inner
      cases tail with
      | nil => simp [splitAfter, inner.1]
      | cons next tail =>
          rw [splitAfter, ih (by simp) inner.2]
          simp [inner.1]

/-- There is only one way to cut a list. -/
theorem IsCut.splitAfter_flatten {segments : List (List α)}
    (isCut : IsCut ends segments) :
    splitAfter ends segments.flatten = segments := by
  induction isCut with
  | nil => rfl
  | last nonempty inner =>
      rw [List.flatten_singleton]
      exact splitAfter_eq_singleton nonempty inner
  | cons inner isEnd isCut ih =>
      rw [List.flatten_cons, List.append_assoc, List.singleton_append,
        splitAfter_append_cons inner isEnd, ih]

/-- What is left of a cut after some segments were taken out is a cut. -/
theorem IsCut.filter {segments : List (List α)} (isCut : IsCut ends segments)
    (kept : List α → Bool) : IsCut ends (segments.filter kept) := by
  induction isCut with
  | nil => exact .nil
  | last nonempty inner =>
      rename_i segment
      cases isKept : kept segment with
      | true =>
          rw [List.filter_cons_of_pos isKept]
          exact .last nonempty inner
      | false =>
          rw [List.filter_cons_of_neg (by simp [isKept])]
          exact .nil
  | cons inner isEnd isCut ih =>
      rename_i body terminator segments
      cases isKept : kept (body ++ [terminator]) with
      | true =>
          rw [List.filter_cons_of_pos isKept]
          exact .cons inner isEnd ih
      | false =>
          rw [List.filter_cons_of_neg (by simp [isKept])]
          exact ih

/-- A list that ends with an end element is cut by itself, whatever follows. -/
theorem splitAfter_append {body : List α} {terminator : α}
    (isEnd : ends terminator = true) (rest : List α) :
    splitAfter ends (body ++ terminator :: rest) =
      splitAfter ends (body ++ [terminator]) ++ splitAfter ends rest := by
  induction body with
  | nil => simp [splitAfter, isEnd]
  | cons head body ih =>
      rw [List.cons_append, List.cons_append, splitAfter, splitAfter, ih]
      split
      next => rfl
      next =>
        cases cut : splitAfter ends (body ++ [terminator]) with
        | nil =>
            have joined := flatten_splitAfter ends (body ++ [terminator])
            rw [cut] at joined
            simp at joined
        | cons segment segments => rfl

/-! ## Terminators -/

/-- A line without the carriage return at its end, if there is one. -/
def withoutReturn (line : List Char) : List Char :=
  if line.getLast? = some '\r' then line.dropLast else line

theorem withoutReturn_of_getLast? {line : List Char}
    (noReturn : line.getLast? ≠ some '\r') : withoutReturn line = line :=
  if_neg noReturn

/-- A line feed takes a carriage return in front of it for its own. -/
theorem chomp_append_lineFeed (line : List Char) :
    chomp (line ++ ['\n']) = withoutReturn line := by
  rcases List.eq_nil_or_concat' line with rfl | ⟨body, last, rfl⟩
  · rfl
  · by_cases isReturn : last = '\r'
    · simp [chomp, withoutReturn, isReturn]
    · simp [chomp, withoutReturn, isReturn]

/-! ## Encoding -/

theorem encode_ne_nil {text : List Char} (nonempty : text ≠ []) :
    encode text ≠ [] := by
  cases text with
  | nil => exact absurd rfl nonempty
  | cons head tail => simp [encode, String.utf8EncodeChar_ne_nil]

/-- A byte below 128 occurs in no encoding but that of the character with its number. -/
theorem toNat_eq_of_mem_utf8EncodeChar {character : Char} {byte : UInt8}
    (ascii : byte.toNat < 0x80) (member : byte ∈ String.utf8EncodeChar character) :
    character.toNat = byte.toNat := by
  rw [String.utf8EncodeChar] at member
  change character.val.toNat = byte.toNat
  generalize character.val.toNat = code at member ⊢
  repeat' split at member
  all_goals
    simp [← UInt8.toNat_inj] at member
    omega

/-- No other character has the line feed byte in its encoding. -/
theorem ne_lineFeed_of_mem_utf8EncodeChar {character : Char} {byte : UInt8}
    (other : character ≠ '\n')
    (member : byte ∈ String.utf8EncodeChar character) : byte ≠ 0x0A := by
  rintro rfl
  exact other (Char.toNat_inj.mp (toNat_eq_of_mem_utf8EncodeChar (by decide) member))

theorem ne_lineFeed_of_mem_encode {text : List Char} {byte : UInt8}
    (inner : ∀ character ∈ text, (character == '\n') = false)
    (member : byte ∈ encode text) : (byte == 0x0A) = false := by
  obtain ⟨character, inText, inEncoding⟩ := List.mem_flatMap.mp member
  have other : character ≠ '\n' := by simpa using inner character inText
  simpa using ne_lineFeed_of_mem_utf8EncodeChar other inEncoding

/-- The segments of a text are encoded as the segments of its encoding. -/
theorem IsCut.map_encode {segments : List (List Char)}
    (isCut : IsCut (· == '\n') segments) :
    IsCut (· == 0x0A) (segments.map encode) := by
  induction isCut with
  | nil => exact .nil
  | last nonempty inner =>
      exact .last (encode_ne_nil nonempty)
        fun byte member => ne_lineFeed_of_mem_encode inner member
  | cons inner isEnd isCut ih =>
      rename_i body terminator segments
      have isLineFeed : terminator = '\n' := by simpa using isEnd
      have encoded : encode (body ++ [terminator]) = encode body ++ [0x0A] := by
        rw [encode_append, isLineFeed]
        rfl
      rw [List.map_cons, encoded]
      exact .cons (fun byte member => ne_lineFeed_of_mem_encode inner member)
        rfl ih

theorem encode_flatten (segments : List (List Char)) :
    encode segments.flatten = (segments.map encode).flatten := by
  induction segments with
  | nil => rfl
  | cons segment segments ih => simp [ih]

theorem byteSegments_encode (text : List Char) :
    byteSegments (encode text) = (segments text).map encode := by
  have isCut : IsCut (· == '\n') (segments text) := isCut_splitAfter text
  have joined : ((segments text).map encode).flatten = encode text := by
    rw [← encode_flatten, segments, flatten_splitAfter]
  rw [byteSegments, ← joined]
  exact isCut.map_encode.splitAfter_flatten

/-! ## Decoding -/

/-- Every segment of the bytes encodes a text by itself. -/
def SegmentsDecodable (bytes : Bytes) : Prop :=
  ∀ segment ∈ byteSegments bytes, (decode? segment).isSome = true

theorem exists_map_encode {segments : List Bytes}
    (decodable : ∀ segment ∈ segments, (decode? segment).isSome = true) :
    ∃ texts : List (List Char), segments = texts.map encode := by
  induction segments with
  | nil => exact ⟨[], rfl⟩
  | cons segment segments ih =>
      rw [List.forall_mem_cons] at decodable
      obtain ⟨text, decoded⟩ := Option.isSome_iff_exists.mp decodable.1
      obtain ⟨texts, rfl⟩ := ih decodable.2
      exact ⟨text :: texts, by rw [List.map_cons, decode?_eq_some_iff.mp decoded]⟩

/-- Bytes encode a text exactly when each of their segments does. -/
theorem isSome_decode?_iff {bytes : Bytes} :
    (decode? bytes).isSome = true ↔ SegmentsDecodable bytes := by
  constructor
  · intro decodable segment member
    obtain ⟨text, decoded⟩ := Option.isSome_iff_exists.mp decodable
    rw [decode?_eq_some_iff.mp decoded, byteSegments_encode] at member
    obtain ⟨characters, -, rfl⟩ := List.mem_map.mp member
    simp
  · intro decodable
    obtain ⟨texts, cut⟩ := exists_map_encode decodable
    have joined : encode texts.flatten = bytes := by
      rw [encode_flatten, ← cut, byteSegments, flatten_splitAfter]
    simp [← joined]

theorem segmentsDecodable_encode (text : List Char) :
    SegmentsDecodable (encode text) :=
  isSome_decode?_iff.mp (by simp)

theorem SegmentsDecodable.exists_encode {bytes : Bytes}
    (decodable : SegmentsDecodable bytes) : ∃ text, bytes = encode text := by
  obtain ⟨text, decoded⟩ :=
    Option.isSome_iff_exists.mp (isSome_decode?_iff.mpr decodable)
  exact ⟨text, decode?_eq_some_iff.mp decoded⟩

end Text

end ExactInteger
