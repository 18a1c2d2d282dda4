import ExactInteger.Proofs.RadixOption
import Mathlib.Data.List.Perm.Basic

/-!
# Options in any order

Every option is set by a group of one or two arguments, and the input file by one.  A scan
that waits for no value takes a whole group before it waits for none again, so a value is
never taken by another option.  Groups that set different things change different parts
of the scan.  Consequently the options of a command line depend neither on the order of
its groups nor on how values are written, and after `--` any text is the input file.
-/

namespace ExactInteger

namespace CommandLine

/-- How a value is written after the name of its option. -/
inductive Spelling where
  /-- In an argument of its own. -/
  | separate
  /-- In the same argument, after an equals sign. -/
  | joined
  deriving DecidableEq

/-- A group of arguments that sets one thing. -/
inductive Setting where
  | noReadline
  | value (option : ValueOption) (spelling : Spelling) (text : String)
  | inputFile (path : String)
  deriving DecidableEq

namespace Setting

def arguments : Setting → List String
  | .noReadline => ["--no-readline"]
  | .value option .separate text => ["--" ++ option.name, text]
  | .value option .joined text => ["--" ++ option.name ++ "=" ++ text]
  | .inputFile path => [path]

/-- The option that a group sets. There is none for the input file. -/
def option? : Setting → Option OnceOption
  | .noReadline => some .noReadline
  | .value option _ _ => some (.value option)
  | .inputFile _ => none

/-- What a group does to a scan that waits for no value. -/
def apply (scan : Scan) : Setting → Scan
  | .noReadline => { scan with noReadline := scan.noReadline + 1, pending := none }
  | .value option _ text => scan.option option (some text.toList)
  | .inputFile path => { scan with inputFile := some path }

end Setting

/-- A text that no argument form gives a meaning to. -/
structure IsPlain (text : String) : Prop where
  noDash : text.toList.head? ≠ some '-'
  noEquals : text.toList.head? ≠ some '='

def Setting.IsPlain : Setting → Prop
  | .noReadline => True
  | .value _ _ text => CommandLine.IsPlain text
  | .inputFile path => CommandLine.IsPlain path

/-! ## Groups -/

/-- A scan that waits for an option or the input file, and for no value. -/
structure Scan.IsOpen (scan : Scan) : Prop where
  notEnded : ¬ scan.ended = true
  notPending : scan.pending = none

theorem Scan.isOpen_empty : Scan.empty.IsOpen :=
  ⟨Bool.false_ne_true, rfl⟩

variable {scan : Scan}

theorem Setting.isOpen_apply (isOpen : scan.IsOpen) (setting : Setting) :
    (setting.apply scan).IsOpen := by
  obtain ⟨notEnded, notPending⟩ := isOpen
  cases setting with
  | noReadline => exact ⟨notEnded, rfl⟩
  | value option spelling text => cases option <;> exact ⟨notEnded, rfl⟩
  | inputFile path => exact ⟨notEnded, notPending⟩

theorem Setting.inputFile_apply {setting : Setting} (isOption : setting.option? ≠ none) :
    (setting.apply scan).inputFile = scan.inputFile := by
  cases setting with
  | noReadline => rfl
  | value option spelling text => cases option <;> rfl
  | inputFile path => exact absurd rfl isOption

/-- A scan takes a group as a whole. -/
theorem Setting.scan_arguments (isOpen : scan.IsOpen) {setting : Setting}
    (isPlain : setting.IsPlain)
    (isFree : setting.option? = none → scan.inputFile = none) :
    setting.arguments.foldlM Scan.argument scan = .ok (setting.apply scan) := by
  obtain ⟨notEnded, notPending⟩ := isOpen
  cases setting with
  | noReadline =>
      rw [arguments, Scan.foldlM_cons_of_ok (Scan.argument_noReadline notEnded)]
      rfl
  | value option spelling text =>
      cases spelling with
      | separate => exact Scan.scan_separate notEnded option isPlain.noDash
      | joined =>
          have taken := Scan.argument_name_equals notEnded option isPlain.noEquals
          rw [arguments, Scan.foldlM_cons_of_ok taken]
          rfl
  | inputFile path =>
      have taken := (Scan.argument_word notEnded notPending isPlain.noDash).trans
        (Scan.positional_of_none (isFree rfl) path)
      rw [arguments, Scan.foldlM_cons_of_ok taken]
      rfl

/-- A scan takes group after group if each sets something else. -/
theorem scan_flatMap_arguments {settings : List Setting} (isOpen : scan.IsOpen)
    (arePlain : ∀ setting ∈ settings, setting.IsPlain)
    (different : (settings.map Setting.option?).Nodup)
    (isFree : none ∈ settings.map Setting.option? → scan.inputFile = none) :
    (settings.flatMap Setting.arguments).foldlM Scan.argument scan =
      .ok (settings.foldl Setting.apply scan) := by
  induction settings generalizing scan with
  | nil => rfl
  | cons setting settings ih =>
      rw [List.forall_mem_cons] at arePlain
      rw [List.map_cons, List.nodup_cons] at different
      have taken := setting.scan_arguments isOpen arePlain.1 fun isInput =>
        isFree (by simp [isInput])
      have stillFree : none ∈ settings.map Setting.option? →
          (setting.apply scan).inputFile = none := by
        intro isInput
        rw [Setting.inputFile_apply fun already => different.1 (already ▸ isInput)]
        exact isFree (List.mem_cons_of_mem _ isInput)
      rw [List.flatMap_cons, List.foldlM_append, taken, List.foldl_cons]
      exact ih (setting.isOpen_apply isOpen) arePlain.2 different.2 stillFree

theorem Setting.apply_comm {first second : Setting}
    (different : first.option? ≠ second.option?) (scan : Scan) :
    second.apply (first.apply scan) = first.apply (second.apply scan) := by
  cases first with
  | noReadline =>
      cases second with
      | noReadline => rfl
      | value option spelling text => cases option <;> rfl
      | inputFile path => rfl
  | value option spelling text =>
      cases second with
      | noReadline => cases option <;> rfl
      | value other otherSpelling otherText =>
          cases option <;> cases other <;> first | rfl | exact absurd rfl different
      | inputFile path => cases option <;> rfl
  | inputFile path =>
      cases second with
      | noReadline => rfl
      | value option spelling text => cases option <;> rfl
      | inputFile other => exact absurd rfl different

theorem foldl_apply_eq_of_perm {settings arrangement : List Setting}
    (isArrangement : arrangement.Perm settings)
    (different : (settings.map Setting.option?).Nodup) :
    arrangement.foldl Setting.apply scan = settings.foldl Setting.apply scan := by
  refine (isArrangement.symm.foldl_eq' ?_ scan).symm
  intro first firstMember second secondMember scan
  by_cases same : first.option? = second.option?
  · rw [List.inj_on_of_nodup_map different firstMember secondMember same]
  · exact Setting.apply_comm same scan

/-! ## Choices -/

/-- An option that was given at most once. -/
def Given.once : Option String → Given
  | .none => Given.none
  | .some value => ⟨1, some value⟩

theorem Given.value_once (value : Option String) : (once value).value = value := by
  cases value <;> rfl

/-- A text that reads as the number of a radix. -/
structure RadixNumeral where
  text : String
  radix : Nat
  isRead : (Literal.readDecimal text).value = .ok (radix : Int)
  isRadix : Literal.IsRadix radix

theorem RadixNumeral.isPlain (numeral : RadixNumeral) : IsPlain numeral.text := by
  have accepted := value_readDecimal_eq_radix_iff.mp ⟨numeral.isRead, numeral.isRadix⟩
  exact ⟨accepted.1.head?_ne (by decide) rfl, accepted.1.head?_ne (by decide) rfl⟩

structure Path where
  text : String
  isPlain : IsPlain text

/-- What is chosen of the options and the input file, and how values are written. -/
structure Choice where
  noReadline : Bool
  radix : Option (Spelling × RadixNumeral)
  historyFile : Option (Spelling × Path)
  inputFile : Option Path

namespace Choice

/-- The groups of the chosen options. -/
def optionSettings (choice : Choice) : List Setting :=
  (if choice.noReadline then [.noReadline] else []) ++
    (choice.radix.map fun (spelling, numeral) =>
      Setting.value .radix spelling numeral.text).toList ++
    (choice.historyFile.map fun (spelling, path) =>
      Setting.value .historyFile spelling path.text).toList

/-- The groups of the chosen options and of the input file. -/
def settings (choice : Choice) : List Setting :=
  choice.optionSettings ++ (choice.inputFile.map (Setting.inputFile ·.text)).toList

def options (choice : Choice) : Options :=
  { readline := !choice.noReadline
    inputFile := choice.inputFile.map Path.text
    historyFile := (choice.historyFile.map (·.2.text)).getD "history.txt"
    radix := (choice.radix.map (·.2.radix)).getD 10 }

variable (choice : Choice)

theorem isPlain_settings : ∀ setting ∈ choice.settings, setting.IsPlain := by
  intro setting member
  obtain ⟨noReadline, radix, historyFile, inputFile⟩ := choice
  simp only [settings, optionSettings, List.mem_append, Option.mem_toList,
    Option.map_eq_some_iff] at member
  rcases member with ((isSwitch | ⟨⟨spelling, numeral⟩, -, rfl⟩) | ⟨⟨spelling, path⟩, -, rfl⟩) |
    ⟨path, -, rfl⟩
  · cases noReadline with
    | false => cases isSwitch
    | true =>
        obtain rfl := List.mem_singleton.mp isSwitch
        trivial
  · exact numeral.isPlain
  · exact path.isPlain
  · exact path.isPlain

/-- No two groups set the same thing. -/
theorem different_settings : (choice.settings.map Setting.option?).Nodup := by
  have inOrder : (choice.settings.map Setting.option?).Sublist
      [some .noReadline, some (.value .radix), some (.value .historyFile), none] := by
    obtain ⟨noReadline, radix, historyFile, inputFile⟩ := choice
    simp only [settings, optionSettings, List.map_append]
    have switch : ((if noReadline then [Setting.noReadline] else []).map
        Setting.option?).Sublist [some .noReadline] := by
      cases noReadline <;> simp [Setting.option?]
    have numeral : ((radix.map fun (spelling, numeral) =>
        Setting.value .radix spelling numeral.text).toList.map
          Setting.option?).Sublist [some (.value .radix)] := by
      cases radix <;> simp [Setting.option?]
    have path : ((historyFile.map fun (spelling, path) =>
        Setting.value .historyFile spelling path.text).toList.map
          Setting.option?).Sublist [some (.value .historyFile)] := by
      cases historyFile <;> simp [Setting.option?]
    have file : ((inputFile.map (Setting.inputFile ·.text)).toList.map
        Setting.option?).Sublist [none] := by
      cases inputFile <;> simp [Setting.option?]
    exact ((switch.append numeral).append path).append file
  exact inOrder.nodup (by decide)

theorem optionSettings_subset : choice.optionSettings ⊆ choice.settings :=
  List.subset_append_left _ _

theorem different_optionSettings :
    (choice.optionSettings.map Setting.option?).Nodup :=
  choice.different_settings.sublist ((List.sublist_append_left _ _).map _)

/-- The scan after all groups of a choice. -/
def scanned (ended : Bool) (inputFile : Option String) : Scan where
  ended
  pending := none
  noReadline := choice.noReadline.toNat
  radix := Given.once (choice.radix.map (·.2.text))
  historyFile := Given.once (choice.historyFile.map (·.2.text))
  inputFile

theorem foldl_optionSettings :
    choice.optionSettings.foldl Setting.apply .empty = choice.scanned false none := by
  obtain ⟨noReadline, radix, historyFile, inputFile⟩ := choice
  cases noReadline <;> cases radix <;> cases historyFile <;>
    simp [optionSettings, scanned, Setting.apply, Scan.option, Scan.mention, Scan.assign,
      Scan.empty, Given.again, Given.none, Given.once]

theorem foldl_settings :
    choice.settings.foldl Setting.apply .empty =
      choice.scanned false (choice.inputFile.map Path.text) := by
  rw [settings, List.foldl_append, foldl_optionSettings]
  cases choice.inputFile <;> rfl

theorem readRadix_chosen :
    readRadix (choice.radix.map (·.2.text)) = .ok choice.options.radix := by
  rw [options]
  cases choice.radix with
  | none => rfl
  | some chosen =>
      obtain ⟨spelling, numeral⟩ := chosen
      rw [Option.map_some, readRadix_eq_ok_iff, ← value_readDecimal_eq_radix_iff]
      exact ⟨numeral.isRead, numeral.isRadix⟩

theorem options_scanned (ended : Bool) (inputFile : Option String) :
    (choice.scanned ended inputFile).options = .ok { choice.options with inputFile } := by
  have once : (choice.scanned ended inputFile).repeated? = none := by
    obtain ⟨noReadline, radix, historyFile, file⟩ := choice
    cases noReadline <;> cases radix <;> cases historyFile <;> rfl
  have radixText : (choice.scanned ended inputFile).radix.value = choice.radix.map (·.2.text) :=
    Given.value_once _
  have path : (choice.scanned ended inputFile).historyFile.value =
      choice.historyFile.map (·.2.text) :=
    Given.value_once _
  have readline : ((choice.scanned ended inputFile).noReadline == 0) = !choice.noReadline := by
    rw [scanned]
    cases choice.noReadline <;> rfl
  rw [Scan.options_of_once once, radixText, choice.readRadix_chosen, path, readline]
  rfl

/-- The order of the groups does not matter to the scan. -/
theorem ofArguments_arrangement {settings arrangement : List Setting}
    (isArrangement : arrangement.Perm settings)
    (arePlain : ∀ setting ∈ settings, setting.IsPlain)
    (different : (settings.map Setting.option?).Nodup) :
    Scan.ofArguments (arrangement.flatMap Setting.arguments) =
      .ok (settings.foldl Setting.apply .empty) := by
  have stillPlain : ∀ setting ∈ arrangement, setting.IsPlain := fun setting member =>
    arePlain setting (isArrangement.mem_iff.mp member)
  have stillDifferent := (isArrangement.map Setting.option?).nodup_iff.mpr different
  rw [Scan.ofArguments, scan_flatMap_arguments Scan.isOpen_empty stillPlain stillDifferent
    fun _ => rfl, foldl_apply_eq_of_perm isArrangement different]

end Choice

/-- The groups of chosen options and of an input file are understood in every order and
however the values are written.  After `--`, which ends the options, any text is the
input file. -/
theorem parse_arrangement (choice : Choice) :
    (∀ arrangement : List Setting, arrangement.Perm choice.settings →
      parse (arrangement.flatMap Setting.arguments) = .ok (.session choice.options)) ∧
    ∀ (path : String) (arrangement : List Setting), arrangement.Perm choice.optionSettings →
      parse (arrangement.flatMap Setting.arguments ++ ["--", path]) =
        .ok (.session { choice.options with inputFile := some path }) := by
  constructor
  · intro arrangement isArrangement
    have scanned := Choice.ofArguments_arrangement isArrangement choice.isPlain_settings
      choice.different_settings
    rw [parse_of_scan scanned, choice.foldl_settings, choice.options_scanned]
    rfl
  · intro path arrangement isArrangement
    have arePlain : ∀ setting ∈ choice.optionSettings, setting.IsPlain := fun setting member =>
      choice.isPlain_settings setting (choice.optionSettings_subset member)
    have scanned := Choice.ofArguments_arrangement isArrangement arePlain
      choice.different_optionSettings
    have ended : Scan.ofArguments (arrangement.flatMap Setting.arguments ++ ["--", path]) =
        .ok (choice.scanned true (some path)) := by
      rw [choice.foldl_optionSettings, Scan.ofArguments] at scanned
      rw [Scan.ofArguments, List.foldlM_append, scanned]
      have separated : (choice.scanned false none).argument "--" =
          .ok (choice.scanned true none) :=
        Scan.argument_separator Bool.false_ne_true
      have taken : (choice.scanned true none).argument path =
          .ok (choice.scanned true (some path)) :=
        (Scan.argument_of_ended rfl path).trans (Scan.positional_of_none rfl path)
      exact (Scan.foldlM_cons_of_ok separated [path]).trans (Scan.foldlM_cons_of_ok taken [])
    rw [parse_of_scan ended, choice.options_scanned]
    rfl

/-- A choice of everything, with a padded numeral and an equals sign in a path. -/
def fullChoice : Choice where
  noReadline := true
  radix := some (.separate, ⟨"+0016", 16, by decide, by decide⟩)
  historyFile := some (.joined, ⟨"a=b", by decide, by decide⟩)
  inputFile := some ⟨"in.txt", by decide, by decide⟩

/-- The input file may stand before all options, or after `--` where it may look like a
request for help. -/
theorem parse_arrangement_full :
    List.Perm [.inputFile "in.txt", .value .historyFile .joined "a=b", .noReadline,
      .value .radix .separate "+0016"] fullChoice.settings ∧
    parse ["in.txt", "--history-file=a=b", "--no-readline", "--radix", "+0016"] =
      .ok (.session ⟨false, some "in.txt", "a=b", 16⟩) ∧
    List.Perm [.value .radix .separate "+0016", .noReadline, .value .historyFile .joined "a=b"]
      fullChoice.optionSettings ∧
    parse ["--radix", "+0016", "--no-readline", "--history-file=a=b", "--", "--help"] =
      .ok (.session ⟨false, some "--help", "a=b", 16⟩) := by
  have isArrangement : List.Perm [.inputFile "in.txt", .value .historyFile .joined "a=b",
      .noReadline, .value .radix .separate "+0016"] fullChoice.settings := by decide
  have isRotation : List.Perm [.value .radix .separate "+0016", .noReadline,
      .value .historyFile .joined "a=b"] fullChoice.optionSettings := by decide
  obtain ⟨anyOrder, afterSeparator⟩ := parse_arrangement fullChoice
  exact ⟨isArrangement, anyOrder _ isArrangement, isRotation,
    afterSeparator "--help" _ isRotation⟩

end CommandLine

end ExactInteger
