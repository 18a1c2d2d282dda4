import ExactInteger.History
import ExactInteger.Proofs.Segmentation
import Mathlib.Data.List.Chain
import Mathlib.Data.List.ReduceOption
import Mathlib.Data.List.TakeWhile

/-!
# Histories and their files

Adding entries one by one keeps a history free of empty entries and of equal
neighbours, and within its capacity.  A history of that kind is what its own
entries, added one by one, make of the empty history.  In the file every entry
is one line, because escapes leave no line feed in it; reading the lines back
gives the entries, except that a carriage return at the end of an entry is taken
for a part of the line terminator.  So a history whose entries do not end in a
carriage return is loaded as it was saved.
-/

namespace ExactInteger

namespace History

/-! ## Escapes -/

theorem escape_append (first second : List Char) :
    escape (first ++ second) = escape first ++ escape second := by
  simp [escape]

theorem escapedCharacter_cases (character : Char) :
    character = '\\' ∨ character = '\n' ∨
      character ≠ '\\' ∧ character ≠ '\n' ∧
        escapedCharacter character = [character] := by
  by_cases isBackslash : character = '\\'
  · exact Or.inl isBackslash
  by_cases isLineFeed : character = '\n'
  · exact Or.inr (Or.inl isLineFeed)
  refine Or.inr (Or.inr ⟨isBackslash, isLineFeed, ?_⟩)
  rw [escapedCharacter]
  · exact isBackslash
  · exact isLineFeed

theorem unescape?_cons_of_ne {character : Char} (notBackslash : character ≠ '\\')
    (rest : List Char) :
    unescape? (character :: rest) = (unescape? rest).map (character :: ·) := by
  simp [unescape?, notBackslash]

theorem unescape?_escape (entry : List Char) : unescape? (escape entry) = some entry := by
  induction entry with
  | nil => rfl
  | cons character entry ih =>
      rw [escape, List.flatMap_cons, ← escape]
      rcases escapedCharacter_cases character with
        rfl | rfl | ⟨notBackslash, -, asItself⟩
      · simp [escapedCharacter, unescape?, ih]
      · simp [escapedCharacter, unescape?, ih]
      · rw [asItself, List.singleton_append, unescape?_cons_of_ne notBackslash, ih,
          Option.map_some]

@[simp]
theorem unescape_escape (entry : List Char) : unescape (escape entry) = entry := by
  rw [unescape, unescape?_escape, Option.getD_some]

theorem ne_lineFeed_of_mem_escape {entry : List Char} {character : Char}
    (member : character ∈ escape entry) : character ≠ '\n' := by
  obtain ⟨source, -, written⟩ := List.mem_flatMap.mp member
  rintro rfl
  rcases escapedCharacter_cases source with rfl | rfl | ⟨-, notLineFeed, asItself⟩
  · simp [escapedCharacter] at written
  · simp [escapedCharacter] at written
  · rw [asItself, List.mem_singleton] at written
    exact notLineFeed written.symm

/-- Escapes are written with characters that are no carriage return. -/
theorem withoutReturn_escape (entry : List Char) :
    Text.withoutReturn (escape entry) = escape (Text.withoutReturn entry) := by
  rcases List.eq_nil_or_concat' entry with rfl | ⟨body, last, rfl⟩
  · rfl
  by_cases isReturn : last = '\r'
  · subst isReturn
    rw [escape_append]
    simp [Text.withoutReturn, escape, escapedCharacter]
  · have kept : Text.withoutReturn (body ++ [last]) = body ++ [last] :=
      Text.withoutReturn_of_getLast? (by simpa using isReturn)
    rw [kept, escape_append]
    apply Text.withoutReturn_of_getLast?
    rw [escape, escape, List.flatMap_singleton]
    rcases escapedCharacter_cases last with rfl | rfl | ⟨-, -, asItself⟩
    · simp [escapedCharacter]
    · simp [escapedCharacter]
    · rw [asItself]
      simpa using isReturn

/-! ## Adding entries -/

/-- The entries of a history, as adding leaves them. -/
structure WellFormed (entries : List String) : Prop where
  nonempty : ∀ entry ∈ entries, entry ≠ ""
  distinct : entries.IsChain (· ≠ ·)
  length_le : entries.length ≤ capacity

theorem wellFormed_nil : WellFormed [] :=
  ⟨by simp, .nil, by simp⟩

theorem newest_of_length_le {α : Type} {entries : List α}
    (fits : entries.length ≤ capacity) : newest entries = entries := by
  rw [newest, Nat.sub_eq_zero_of_le fits, List.drop_zero]

theorem length_newest_le {α : Type} (entries : List α) :
    (newest entries).length ≤ capacity := by
  rw [newest, List.length_drop]
  omega

/-- An entry is skipped when it is empty or equal to the last one. -/
def Skips (entries : List String) (entry : String) : Prop :=
  entry = "" ∨ entries.getLast? = some entry

theorem add_of_skips {history : History} {entry : String}
    (skips : Skips history.entries entry) : history.add entry = history := by
  rw [add, if_pos]
  rcases skips with rfl | last
  · rfl
  · simp [last]

theorem add_of_not_skips {history : History} {entry : String}
    (added : ¬ Skips history.entries entry) :
    history.add entry = ⟨newest (history.entries ++ [entry]), true⟩ := by
  rw [Skips, not_or] at added
  rw [add, if_neg]
  simpa [String.isEmpty_iff] using added

/-- What is added to a history does not depend on what has been saved. -/
theorem entries_foldl_add {first second : History}
    (same : first.entries = second.entries) (entries : List String) :
    (entries.foldl History.add first).entries =
      (entries.foldl History.add second).entries := by
  induction entries generalizing first second with
  | nil => exact same
  | cons entry entries ih =>
      apply ih
      by_cases skips : Skips first.entries entry
      · rw [add_of_skips skips, add_of_skips (same ▸ skips), same]
      · rw [add_of_not_skips skips, add_of_not_skips (same ▸ skips), same]

theorem WellFormed.add {history : History} (wellFormed : WellFormed history.entries)
    (entry : String) : WellFormed (history.add entry).entries := by
  by_cases skips : Skips history.entries entry
  · rwa [add_of_skips skips]
  · rw [add_of_not_skips skips]
    rw [Skips, not_or] at skips
    refine ⟨?_, ?_, length_newest_le _⟩
    · intro other member
      rcases List.mem_append.mp (List.mem_of_mem_drop member) with old | new
      · exact wellFormed.nonempty other old
      · rw [List.mem_singleton.mp new]
        exact skips.1
    · apply List.IsChain.drop
      apply wellFormed.distinct.append (List.isChain_singleton entry)
      intro last isLast other isOther
      rw [List.head?_singleton, Option.mem_some_iff] at isOther
      rintro rfl
      exact skips.2 (isOther ▸ isLast)

theorem WellFormed.foldl_add {history : History}
    (wellFormed : WellFormed history.entries) (entries : List String) :
    WellFormed (entries.foldl History.add history).entries := by
  induction entries generalizing history with
  | nil => exact wellFormed
  | cons entry entries ih => exact ih (wellFormed.add entry)

/-- Entries that a history may hold are added without change. -/
theorem WellFormed.foldl_add_append {kept entries : List String} {unsaved : Bool}
    (wellFormed : WellFormed (kept ++ entries)) :
    entries.foldl History.add ⟨kept, unsaved⟩ =
      ⟨kept ++ entries, unsaved || !entries.isEmpty⟩ := by
  -- Each step moves one entry over to those that are kept.
  induction entries generalizing kept unsaved with
  | nil => simp
  | cons entry entries ih =>
      rw [List.append_cons] at wellFormed ⊢
      have added : ¬ Skips kept entry := by
        rintro (isEmpty | isLast)
        · exact wellFormed.nonempty entry (by simp) isEmpty
        · have distinct := wellFormed.distinct.left_of_append
          have neighbours := (List.isChain_append.mp distinct).2.2
          exact neighbours entry isLast entry rfl rfl
      have fits : (kept ++ [entry]).length ≤ capacity := by
        have length_le := wellFormed.length_le
        rw [List.length_append] at length_le
        omega
      rw [List.foldl_cons, add_of_not_skips added, newest_of_length_le fits,
        ih wellFormed]
      simp

theorem WellFormed.foldl_add_empty {entries : List String}
    (wellFormed : WellFormed entries) :
    entries.foldl History.add empty = ⟨entries, !entries.isEmpty⟩ := by
  have appended : WellFormed ([] ++ entries) := wellFormed
  rw [empty, appended.foldl_add_append, List.nil_append, Bool.false_or]

/-- The entries of a history come from it or from what was added. -/
theorem mem_of_mem_foldl_add {history : History} {entries : List String} {entry : String}
    (member : entry ∈ (entries.foldl History.add history).entries) :
    entry ∈ history.entries ∨ entry ∈ entries := by
  induction entries generalizing history with
  | nil => exact Or.inl member
  | cons next entries ih =>
      rcases ih member with present | later
      · by_cases skips : Skips history.entries next
        · rw [add_of_skips skips] at present
          exact Or.inl present
        · rw [add_of_not_skips skips] at present
          rcases List.mem_append.mp (List.mem_of_mem_drop present) with old | new
          · exact Or.inl old
          · exact Or.inr (by simp [List.mem_singleton.mp new])
      · exact Or.inr (List.mem_cons_of_mem next later)

/-- While they fit, entries are not dropped. -/
theorem mem_foldl_add {history : History} {entries : List String} {entry : String}
    (nonempty : entry ≠ "")
    (fits : history.entries.length + entries.length ≤ capacity)
    (member : entry ∈ history.entries ∨ entry ∈ entries) :
    entry ∈ (entries.foldl History.add history).entries := by
  induction entries generalizing history with
  | nil => simpa using member
  | cons next entries ih =>
      rw [List.length_cons] at fits
      rw [List.foldl_cons]
      by_cases skips : Skips history.entries next
      · rw [add_of_skips skips]
        apply ih (by omega)
        rcases member with present | isNext | later
        · exact Or.inl present
        · rcases skips with isEmpty | isLast
          · exact absurd isEmpty nonempty
          · exact Or.inl (List.mem_of_getLast? isLast)
        · exact Or.inr ‹_›
      · rw [add_of_not_skips skips]
        have whole : newest (history.entries ++ [next]) = history.entries ++ [next] := by
          apply newest_of_length_le
          rw [List.length_append, List.length_singleton]
          omega
        rw [whole]
        apply ih
        · rw [List.length_append, List.length_singleton]
          omega
        · simpa [or_assoc] using member

theorem mem_foldl_add_empty_iff {entries : List String} {entry : String}
    (nonempty : ∀ other ∈ entries, other ≠ "") (fits : entries.length ≤ capacity) :
    entry ∈ (entries.foldl History.add empty).entries ↔ entry ∈ entries := by
  constructor
  · intro member
    rcases mem_of_mem_foldl_add member with old | new
    · simp [empty] at old
    · exact new
  · intro member
    apply mem_foldl_add (nonempty entry member) _ (Or.inr member)
    simpa [empty] using fits

theorem foldl_add_filter (entries : List String) (history : History) :
    (entries.filter (!·.isEmpty)).foldl History.add history =
      entries.foldl History.add history := by
  induction entries generalizing history with
  | nil => rfl
  | cons entry entries ih =>
      by_cases isEmpty : entry = ""
      · subst isEmpty
        have skipped : history.add "" = history := add_of_skips (Or.inl rfl)
        rw [List.foldl_cons, skipped, ← ih]
        rfl
      · rw [List.filter_cons_of_pos (by simpa using isEmpty), List.foldl_cons,
          List.foldl_cons, ih]

/-! ## Unsaved entries -/

/-- There is something to save. -/
def HasUnsaved (history : History) : Prop :=
  history.unsaved = true ∧ history.entries ≠ []

theorem HasUnsaved.fileContents? {history : History} (hasUnsaved : HasUnsaved history) :
    history.fileContents? = some (Text.encode (fileText history.entries)) := by
  rw [History.fileContents?, if_pos]
  simpa [HasUnsaved] using hasUnsaved

theorem hasUnsaved_add {history : History} {entry : String}
    (added : ¬ Skips history.entries entry) : HasUnsaved (history.add entry) := by
  rw [add_of_not_skips added]
  refine ⟨rfl, ?_⟩
  intro nothingLeft
  have lost := congrArg List.length nothingLeft
  simp only [newest, List.length_drop, List.length_append, List.length_singleton,
    List.length_nil, capacity] at lost
  omega

theorem HasUnsaved.add {history : History} (hasUnsaved : HasUnsaved history)
    (entry : String) : HasUnsaved (history.add entry) := by
  by_cases skips : Skips history.entries entry
  · rwa [add_of_skips skips]
  · exact hasUnsaved_add skips

theorem HasUnsaved.foldl_add {history : History} (hasUnsaved : HasUnsaved history)
    (entries : List String) : HasUnsaved (entries.foldl History.add history) := by
  induction entries generalizing history with
  | nil => exact hasUnsaved
  | cons entry entries ih => exact ih (hasUnsaved.add entry)

/-- Adding entries changes nothing, or leaves something to save. -/
theorem foldl_add_eq_or_hasUnsaved (history : History) (entries : List String) :
    entries.foldl History.add history = history ∨
      HasUnsaved (entries.foldl History.add history) := by
  induction entries generalizing history with
  | nil => exact Or.inl rfl
  | cons entry entries ih =>
      by_cases skips : Skips history.entries entry
      · rw [List.foldl_cons, add_of_skips skips]
        exact ih history
      · exact Or.inr ((hasUnsaved_add skips).foldl_add entries)

theorem hasUnsaved_foldl_add_empty {entries : List String} (something : entries ≠ [])
    (nonempty : ∀ entry ∈ entries, entry ≠ "") :
    HasUnsaved (entries.foldl History.add empty) := by
  cases entries with
  | nil => exact absurd rfl something
  | cons entry entries =>
      have added : ¬ Skips empty.entries entry := by
        rintro (isEmpty | isLast)
        · exact nonempty entry (by simp) isEmpty
        · simp [empty] at isLast
      exact (hasUnsaved_add added).foldl_add entries

/-! ## Lines of a file -/

/-- The lines of a history file, each decoded by itself. -/
def decodings (contents : Bytes) : List (Option (List Char)) :=
  (Text.byteSegments contents).map fun segment =>
    (Text.decode? segment).map Text.chomp

/-- The entries that decoded lines denote. A line that is no text, or is empty,
denotes none. If the header is the first line, then the others are unescaped. -/
def entriesOf (decodings : List (Option (List Char))) : List String :=
  let lines :=
    if decodings.head? = some (some header) then
      decodings.tail.reduceOption.map unescape
    else
      decodings.reduceOption
  (lines.map String.ofList).filter (!·.isEmpty)

/-- The entries that the lines of a history file denote, whether it can be loaded
to its end or not. -/
def entriesIn (contents : Bytes) : List String :=
  entriesOf (decodings contents)

/-- The entries that the lines of a history file denote up to the first line that
is no text. -/
def loadableEntries (contents : Bytes) : List String :=
  entriesOf ((decodings contents).takeWhile Option.isSome)

theorem decodedLines_eq (contents : Bytes) :
    decodedLines contents =
      (((decodings contents).takeWhile Option.isSome).reduceOption,
        (decodings contents).all Option.isSome) := by
  have sameTest : Option.isSome ∘ Option.map Text.chomp =
      (Option.isSome : Option (List Char) → Bool) := by
    funext decoding
    cases decoding <;> rfl
  have mapped : decodings contents =
      ((Text.byteSegments contents).map Text.decode?).map (Option.map Text.chomp) := by
    rw [decodings, List.map_map]
    rfl
  simp only [decodedLines, mapped]
  generalize (Text.byteSegments contents).map Text.decode? = decoded
  rw [List.takeWhile_map, sameTest, List.all_map, sameTest, List.reduceOption,
    List.filterMap_map]
  rfl

theorem entriesOf_map_some (lines : List (List Char)) :
    entriesOf (lines.map some) =
      ((denoted lines).map String.ofList).filter (!·.isEmpty) := by
  have reduced : ∀ rest : List (List Char), (rest.map some).reduceOption = rest := by
    intro rest
    simp [List.reduceOption]
  cases lines with
  | nil => rfl
  | cons first rest =>
      rw [entriesOf, denoted]
      by_cases isHeader : first = header
      · simp [isHeader, reduced]
      · rw [if_neg (by simpa using isHeader), if_neg isHeader, reduced]

theorem map_some_reduceOption {α : Type} {list : List (Option α)}
    (present : ∀ element ∈ list, element.isSome = true) :
    list.reduceOption.map some = list := by
  induction list with
  | nil => rfl
  | cons element list ih =>
      rw [List.forall_mem_cons] at present
      obtain ⟨value, rfl⟩ := Option.isSome_iff_exists.mp present.1
      rw [List.reduceOption_cons_of_some, List.map_cons, ih present.2]

/-- Loading adds the entries of the lines up to the first that is no text. Only
at the end of the file do they count as saved. -/
theorem load_eq (contents : Bytes) :
    load contents =
      let loaded := (loadableEntries contents).foldl add empty
      let complete := (decodings contents).all Option.isSome
      ⟨if complete then { loaded with unsaved := false } else loaded, complete⟩ := by
  have texts : ∀ decoding ∈ (decodings contents).takeWhile Option.isSome,
      decoding.isSome = true :=
    fun decoding member => List.mem_takeWhile_imp member
  rw [loadableEntries, ← map_some_reduceOption texts, entriesOf_map_some,
    foldl_add_filter]
  simp only [load, decodedLines_eq]

/-! ## Saved histories -/

theorem segments_fileText (entries : List String) :
    Text.segments (fileText entries) =
      (header ++ ['\n']) :: entries.map fun entry => escape entry.toList ++ ['\n'] := by
  have entryLines : Text.IsCut (· == '\n')
      (entries.map fun entry => escape entry.toList ++ ['\n']) := by
    induction entries with
    | nil => exact .nil
    | cons entry entries ih =>
        refine .cons ?_ rfl ih
        intro character member
        simpa using ne_lineFeed_of_mem_escape member
  have headerLine : ∀ character ∈ header, (character == '\n') = false := by
    simp [header]
  have allLines : Text.IsCut (· == '\n') ((header ++ ['\n']) ::
      entries.map fun entry => escape entry.toList ++ ['\n']) :=
    .cons headerLine rfl entryLines
  have joined : fileText entries = ((header ++ ['\n']) ::
      entries.map fun entry => escape entry.toList ++ ['\n']).flatten := by
    simp [fileText, List.flatMap_def]
  rw [Text.segments, joined]
  exact allLines.splitAfter_flatten

theorem decodings_encode (text : List Char) :
    decodings (Text.encode text) = ((Text.segments text).map Text.chomp).map some := by
  rw [decodings, Text.byteSegments_encode, List.map_map, List.map_map]
  apply List.map_congr_left
  intro segment _
  simp

theorem decodings_fileText (entries : List String) :
    decodings (Text.encode (fileText entries)) =
      (header :: entries.map fun entry =>
        Text.withoutReturn (escape entry.toList)).map some := by
  have headerLine : Text.withoutReturn header = header := by decide
  rw [decodings_encode, segments_fileText, List.map_cons, List.map_map,
    Text.chomp_append_lineFeed, headerLine]
  simp only [Function.comp_def, Text.chomp_append_lineFeed]

/-- An entry as it is read back, without a carriage return at its end. -/
def reread (entry : String) : String :=
  String.ofList (Text.withoutReturn entry.toList)

theorem reread_of_getLast? {entry : String}
    (noReturn : entry.toList.getLast? ≠ some '\r') : reread entry = entry := by
  rw [reread, Text.withoutReturn_of_getLast? noReturn, String.ofList_toList]

/-- The lines of a saved history denote its entries as they are read back. -/
theorem entriesIn_fileText (entries : List String) :
    entriesIn (Text.encode (fileText entries)) =
      (entries.map reread).filter (!·.isEmpty) := by
  rw [entriesIn, decodings_fileText, entriesOf_map_some, denoted, if_pos rfl,
    List.map_map, List.map_map]
  congr 1
  apply List.map_congr_left
  intro entry _
  simp [withoutReturn_escape, reread]

theorem ne_empty_of_mem_entriesOf {decodings : List (Option (List Char))} {entry : String}
    (member : entry ∈ entriesOf decodings) : entry ≠ "" := by
  simpa using (List.mem_filter.mp member).2

/-- The entries of a history that its file restores. -/
structure Restorable (entries : List String) : Prop extends WellFormed entries where
  noReturns : ∀ entry ∈ entries, entry.toList.getLast? ≠ some '\r'

theorem restorable_nil : Restorable [] :=
  ⟨wellFormed_nil, by simp⟩

theorem Restorable.foldl_add {history : History} {entries : List String}
    (restorable : Restorable history.entries)
    (noReturns : ∀ entry ∈ entries, entry.toList.getLast? ≠ some '\r') :
    Restorable (entries.foldl History.add history).entries := by
  refine ⟨restorable.toWellFormed.foldl_add entries, ?_⟩
  intro entry member
  rcases mem_of_mem_foldl_add member with old | new
  · exact restorable.noReturns entry old
  · exact noReturns entry new

theorem Restorable.entriesIn_fileText {entries : List String}
    (restorable : Restorable entries) :
    entriesIn (Text.encode (fileText entries)) = entries := by
  have unchanged : ∀ entry ∈ entries, reread entry = entry :=
    fun entry member => reread_of_getLast? (restorable.noReturns entry member)
  have nonempty : ∀ entry ∈ entries, (!entry.isEmpty) = true := by
    intro entry member
    simpa using restorable.nonempty entry member
  rw [History.entriesIn_fileText, List.map_congr_left unchanged, List.map_id',
    List.filter_eq_self.mpr nonempty]

/-- A history whose entries do not end in a carriage return is loaded as it was
saved. -/
theorem load_fileText {entries : List String} (restorable : Restorable entries) :
    load (Text.encode (fileText entries)) = ⟨⟨entries, false⟩, true⟩ := by
  have texts : ∀ decoding ∈ decodings (Text.encode (fileText entries)),
      decoding.isSome = true := by
    rw [decodings_fileText]
    simp
  have loaded : loadableEntries (Text.encode (fileText entries)) = entries := by
    rw [loadableEntries, List.takeWhile_eq_self_iff.mpr texts]
    exact restorable.entriesIn_fileText
  rw [load_eq, loaded, restorable.toWellFormed.foldl_add_empty, List.all_eq_true.mpr texts]
  rfl

end History

end ExactInteger
