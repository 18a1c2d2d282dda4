import ExactInteger.Echo
import ExactInteger.Proofs.Segmentation
import Mathlib.Data.List.DropRight

/-!
# Tokens of lines

White space at the ends of a text, line terminators among it, belongs to no
token.  So the tokens of a text are those of its segments one after another, and
neither taking terminators off, nor trimming, nor leaving out blank lines
changes them: the line structure of a text does not show in its tokens, and so
not in what it is echoed as.
-/

namespace ExactInteger

/-- Leaving out elements for which nothing is written changes nothing. -/
theorem flatMap_filter_of_eq_nil {α β : Type} {list : List α} {written : α → List β}
    {kept : α → Bool}
    (nothing : ∀ element ∈ list, kept element = false → written element = []) :
    (list.filter kept).flatMap written = list.flatMap written := by
  induction list with
  | nil => rfl
  | cons element list ih =>
      rw [List.forall_mem_cons] at nothing
      cases isKept : kept element with
      | true =>
          rw [List.filter_cons_of_pos isKept, List.flatMap_cons, List.flatMap_cons,
            ih nothing.2]
      | false =>
          rw [List.filter_cons_of_neg (by simp [isKept]), ih nothing.2, List.flatMap_cons,
            nothing.1 isKept, List.nil_append]

namespace Text

theorem tokens_cons_blank {character : Char}
    (blank : isWhiteSpace character = true) (text : List Char) :
    tokens (character :: text) = tokens text := by
  simpa using tokens_append_cons blank [] text

theorem tokens_eq_nil {blanks : List Char}
    (blank : ∀ character ∈ blanks, isWhiteSpace character = true) :
    tokens blanks = [] := by
  induction blanks with
  | nil => exact tokens_nil
  | cons character blanks ih =>
      rw [List.forall_mem_cons] at blank
      rw [tokens_cons_blank blank.1, ih blank.2]

theorem tokens_append_blank {text blanks : List Char}
    (blank : ∀ character ∈ blanks, isWhiteSpace character = true) :
    tokens (text ++ blanks) = tokens text := by
  cases blanks with
  | nil => rw [List.append_nil]
  | cons character blanks =>
      rw [List.forall_mem_cons] at blank
      rw [tokens_append_cons blank.1, tokens_eq_nil blank.2, List.append_nil]

theorem tokens_dropWhile (text : List Char) :
    tokens (text.dropWhile isWhiteSpace) = tokens text := by
  induction text with
  | nil => rfl
  | cons character text ih =>
      by_cases blank : isWhiteSpace character = true
      · rw [List.dropWhile_cons_of_pos blank, ih, tokens_cons_blank blank]
      · rw [List.dropWhile_cons_of_neg blank]

theorem tokens_rdropWhile (text : List Char) :
    tokens (text.rdropWhile isWhiteSpace) = tokens text := by
  have blank : ∀ character ∈ text.rtakeWhile isWhiteSpace,
      isWhiteSpace character = true :=
    fun character member => List.mem_rtakeWhile_imp member
  calc
    tokens (text.rdropWhile isWhiteSpace) =
        tokens (text.rdropWhile isWhiteSpace ++ text.rtakeWhile isWhiteSpace) :=
      (tokens_append_blank blank).symm
    _ = tokens text := by rw [List.rdropWhile_append_rtakeWhile]

@[simp]
theorem tokens_trim (text : List Char) : tokens (trim text) = tokens text := by
  rw [trim, ← List.rdropWhile, tokens_rdropWhile, tokens_dropWhile]

theorem isWhiteSpace_lineFeed : isWhiteSpace '\n' = true := by
  decide

theorem isWhiteSpace_carriageReturn : isWhiteSpace '\r' = true := by
  decide

/-- What is taken off a segment is white space. -/
theorem exists_chomp_append (segment : List Char) :
    ∃ terminator, segment = chomp segment ++ terminator ∧
      ∀ character ∈ terminator, isWhiteSpace character = true := by
  rw [chomp]
  split
  next rest reversed =>
    refine ⟨['\r', '\n'], ?_, ?_⟩
    · rw [← List.reverse_reverse segment, reversed]
      simp
    · simp [isWhiteSpace_lineFeed, isWhiteSpace_carriageReturn]
  next rest _ reversed =>
    refine ⟨['\n'], ?_, ?_⟩
    · rw [← List.reverse_reverse segment, reversed]
      simp
    · simp [isWhiteSpace_lineFeed]
  next => exact ⟨[], by simp, by simp⟩

@[simp]
theorem tokens_chomp (segment : List Char) :
    tokens (chomp segment) = tokens segment := by
  obtain ⟨terminator, segmentEq, blank⟩ := exists_chomp_append segment
  calc
    tokens (chomp segment) = tokens (chomp segment ++ terminator) :=
      (tokens_append_blank blank).symm
    _ = tokens segment := by rw [← segmentEq]

theorem dropWhile_of_blank {blanks : List Char}
    (blank : ∀ character ∈ blanks, isWhiteSpace character = true) :
    blanks.dropWhile isWhiteSpace = [] :=
  List.dropWhile_eq_nil_iff.mpr blank

theorem trim_append_blank {text blanks : List Char}
    (blank : ∀ character ∈ blanks, isWhiteSpace character = true) :
    trim (text ++ blanks) = trim text := by
  have backward : blanks.reverse.dropWhile isWhiteSpace = [] :=
    dropWhile_of_blank (by simpa using blank)
  rw [trim, trim, List.dropWhile_append]
  split
  next isEmpty =>
    rw [dropWhile_of_blank blank, List.isEmpty_iff.mp isEmpty]
  next =>
    rw [List.reverse_append, List.dropWhile_append, backward]
    simp

@[simp]
theorem trim_chomp (segment : List Char) : trim (chomp segment) = trim segment := by
  obtain ⟨terminator, segmentEq, blank⟩ := exists_chomp_append segment
  calc
    trim (chomp segment) = trim (chomp segment ++ terminator) :=
      (trim_append_blank blank).symm
    _ = trim segment := by rw [← segmentEq]

/-- A trimmed text does not end in white space. -/
theorem isWhiteSpace_of_getLast?_trim {text : List Char} {last : Char}
    (isLast : (trim text).getLast? = some last) : isWhiteSpace last = false := by
  rw [trim, List.getLast?_reverse] at isLast
  have first := List.head?_dropWhile_not isWhiteSpace
    (text.dropWhile isWhiteSpace).reverse
  rwa [isLast] at first

/-- A cut at white space cuts no token. -/
theorem IsCut.tokens_flatten {ends : Char → Bool}
    (endsBlank : ∀ character, ends character = true →
      isWhiteSpace character = true)
    {segments : List (List Char)} (isCut : IsCut ends segments) :
    tokens segments.flatten = segments.flatMap tokens := by
  induction isCut with
  | nil => simp
  | last nonempty inner => simp
  | cons inner isEnd isCut ih =>
      rename_i body terminator segments
      have blank := endsBlank terminator isEnd
      rw [List.flatten_cons, List.append_assoc, List.singleton_append,
        tokens_append_cons blank, ih, List.flatMap_cons,
        tokens_append_blank (by simpa using blank)]

theorem tokens_segments (text : List Char) :
    (segments text).flatMap tokens = tokens text := by
  have isCut : IsCut (· == '\n') (segments text) := isCut_splitAfter text
  rw [← isCut.tokens_flatten, segments, flatten_splitAfter]
  intro character isLineFeed
  rw [eq_of_beq isLineFeed]
  exact isWhiteSpace_lineFeed

theorem flatMap_tokens_filter (pieces : List (List Char)) :
    (pieces.filter (!·.isEmpty)).flatMap tokens = pieces.flatMap tokens := by
  apply flatMap_filter_of_eq_nil
  intro piece _ isEmpty
  have empty : piece = [] := by simpa using isEmpty
  rw [empty, tokens_nil]

/-- Cutting a text into lines, trimming them and leaving out the blank ones
keeps its tokens. -/
theorem tokens_lines (text : List Char) :
    (((lines text).map trim).filter (!·.isEmpty)).flatMap tokens =
      tokens text := by
  rw [flatMap_tokens_filter, lines, ← tokens_segments text]
  simp [List.flatMap_map, Function.comp_def]

end Text

/-! ## Echoes -/

theorem echo_eq_of_tokens_eq (radix : Nat) {first second : List Char}
    (sameTokens : Text.tokens first = Text.tokens second) :
    echo radix first = echo radix second := by
  rw [echo, echo, sameTokens]

@[simp]
theorem echo_trim (radix : Nat) (text : List Char) :
    echo radix (Text.trim text) = echo radix text :=
  echo_eq_of_tokens_eq radix (Text.tokens_trim text)

@[simp]
theorem echo_chomp (radix : Nat) (segment : List Char) :
    echo radix (Text.chomp segment) = echo radix segment :=
  echo_eq_of_tokens_eq radix (Text.tokens_chomp segment)

theorem value_echo (radix : Nat) (text : List Char) :
    (echo radix text).value =
      (Text.tokens text).map fun token =>
        outcomeText (Literal.read radix (String.ofList token)).value := by
  simp [echo]

/-- A text is echoed as its segments one after another. -/
theorem value_echo_segments (radix : Nat) (text : List Char) :
    (Text.segments text).flatMap (fun segment => (echo radix segment).value) =
      (echo radix text).value := by
  simp only [value_echo]
  rw [← Text.tokens_segments text, List.map_flatMap]

end ExactInteger
