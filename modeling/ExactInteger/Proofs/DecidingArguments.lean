import ExactInteger.CommandLine.Help
import ExactInteger.Proofs.FirstCharacters
import ExactInteger.Proofs.RadixOption
import ExactInteger.Proofs.RunFrame
import ExactInteger.Proofs.SameEcho

/-!
# Arguments that decide

A scan ends where an argument asks for help or the version, or is not expected, and nothing
after it is looked at.  An option that was given more than once stays so, whatever else is
given.  Hence the first argument that ends a scan decides what a run does, and what follows
repeated options may end the scan but cannot mend it.  Whether help or the version was
printed shows in the output, since a session prints nothing that begins like them.
-/

namespace ExactInteger

namespace CommandLine

variable {arguments : List String}

/-! ## Errors after the scan -/

theorem kind_of_readRadix {text : Option String} {error : UsageError}
    (refused : readRadix text = .error error) :
    error.kind = .radixText ∨ error.kind = .radixRange := by
  cases text with
  | none => cases refused
  | some text =>
      rcases readRadix_cases text with ⟨cause, -, outcome⟩ | ⟨radix, -, -, outcome⟩ |
        ⟨radix, -, -, outcome⟩
      · rw [outcome] at refused
        cases refused
        exact Or.inl rfl
      · rw [outcome] at refused
        cases refused
      · rw [outcome] at refused
        cases refused
        exact Or.inr rfl

/-- A scan is refused for the first option that was given more than once, and otherwise
for its radix. -/
theorem Scan.cases_of_options_error {scan : Scan} {error : UsageError}
    (refused : scan.options = .error error) :
    (∃ option, scan.repeated? = some option ∧ error = .repeated option) ∨
      error.kind = .radixText ∨ error.kind = .radixRange := by
  rw [options] at refused
  split at refused
  next option isRepeated =>
    cases refused
    exact Or.inl ⟨option, isRepeated, rfl⟩
  next =>
    cases outcome : readRadix scan.radix.value with
    | error cause =>
        rw [outcome] at refused
        cases refused
        exact Or.inr (kind_of_readRadix outcome)
    | ok radix =>
        rw [outcome] at refused
        cases refused

theorem parse_eq_error_of_scan {scan : Scan} {error : UsageError}
    (scanned : Scan.ofArguments arguments = .ok scan)
    (refused : parse arguments = .error error) : scan.options = .error error := by
  rw [parse_of_scan scanned] at refused
  cases outcome : scan.options with
  | error cause =>
      rw [outcome] at refused
      cases refused
      rfl
  | ok options =>
      rw [outcome] at refused
      cases refused

theorem parse_eq_ok_of_scan {scan : Scan} {request : Request}
    (scanned : Scan.ofArguments arguments = .ok scan)
    (accepted : parse arguments = .ok request) :
    ∃ options, scan.options = .ok options ∧ request = .session options := by
  rw [parse_of_scan scanned] at accepted
  cases outcome : scan.options with
  | error cause =>
      rw [outcome] at accepted
      cases accepted
  | ok options =>
      rw [outcome] at accepted
      cases accepted
      exact ⟨options, rfl, rfl⟩

/-- A scan with options has none that was given more than once. -/
theorem Scan.repeated?_eq_none_of_options {scan : Scan} {options : Options}
    (accepted : scan.options = .ok options) : scan.repeated? = none := by
  rw [Scan.options] at accepted
  split at accepted
  next => cases accepted
  next once => exact once

/-! ## Stops -/

/-- What the arguments of a run come to if something ends their scan. -/
def Stop.answer : Stop → Except UsageError Request
  | .help => .ok .help
  | .version => .ok .version
  | .unexpected argument => .error (.unexpected argument)

theorem Stop.answer_injective : Function.Injective Stop.answer := by
  intro first second same
  cases first <;> cases second <;> first | rfl | cases same
  rfl

theorem parse_of_stop {stop : Stop} (stopped : Scan.ofArguments arguments = .error stop) :
    parse arguments = stop.answer := by
  rw [parse, stopped]
  cases stop <;> rfl

/-- Only what ends a scan leads to its answer. -/
theorem parse_eq_answer_iff {stop : Stop} :
    parse arguments = stop.answer ↔ Scan.ofArguments arguments = .error stop := by
  refine ⟨fun answered => ?_, parse_of_stop⟩
  cases scanned : Scan.ofArguments arguments with
  | error other =>
      rw [parse_of_stop scanned] at answered
      rw [Stop.answer_injective answered]
  | ok scan =>
      cases stop with
      | unexpected argument =>
          rcases Scan.cases_of_options_error (parse_eq_error_of_scan scanned answered) with
            ⟨option, -, other⟩ | other | other
          all_goals cases other
      | help | version =>
          obtain ⟨options, -, other⟩ := parse_eq_ok_of_scan scanned answered
          cases other

/-- What ended a scan ends it before any further argument. -/
theorem parse_append_of_answer {first : List String} {stop : Stop}
    (answered : parse first = stop.answer) (rest : List String) :
    parse (first ++ rest) = stop.answer := by
  rw [parse_eq_answer_iff, Scan.ofArguments] at answered ⊢
  rw [List.foldlM_append, answered]
  rfl

/-! ## Repetitions -/

/-- The options that may be given once, in the order in which they are checked. -/
def OnceOption.all : List OnceOption :=
  [.noReadline, .value .radix, .value .historyFile]

theorem OnceOption.mem_all (option : OnceOption) : option ∈ all := by
  rcases option with _ | _ | _ <;> simp [all]

namespace Scan

/-- How often an option was given. -/
def count (scan : Scan) : OnceOption → Nat
  | .noReadline => scan.noReadline
  | .value .radix => scan.radix.count
  | .value .historyFile => scan.historyFile.count

theorem repeated?_eq_find? (scan : Scan) :
    scan.repeated? = OnceOption.all.find? (1 < scan.count ·) := by
  by_cases noReadline : 1 < scan.noReadline
  · simp [repeated?, OnceOption.all, count, noReadline]
  by_cases radix : 1 < scan.radix.count
  · simp [repeated?, OnceOption.all, count, noReadline, radix]
  by_cases historyFile : 1 < scan.historyFile.count
  · simp [repeated?, OnceOption.all, count, noReadline, radix, historyFile]
  · simp [repeated?, OnceOption.all, count, noReadline, radix, historyFile]

variable {scan next : Scan}

theorem repeated?_eq_none_iff :
    scan.repeated? = none ↔ ∀ option, scan.count option ≤ 1 := by
  simp [repeated?_eq_find?, OnceOption.mem_all]

theorem one_lt_count_of_repeated? {option : OnceOption}
    (isRepeated : scan.repeated? = some option) : 1 < scan.count option := by
  rw [repeated?_eq_find?] at isRepeated
  simpa using List.find?_some isRepeated

theorem count_le_option (scan : Scan) (given : ValueOption) (value : Option (List Char))
    (option : OnceOption) : scan.count option ≤ (scan.option given value).count option := by
  cases value <;> cases given <;> rcases option with _ | _ | _ <;>
    simp [count, Scan.option, mention, assign, Given.again]

theorem count_of_positional {argument : String}
    (taken : scan.positional argument = .ok next) (option : OnceOption) :
    next.count option = scan.count option := by
  rw [positional] at taken
  split at taken
  next => cases taken; rcases option with _ | _ | _ <;> rfl
  next => cases taken

theorem count_le_of_long {name : List Char} {value : Option (List Char)}
    (taken : scan.long name value = .ok next) (option : OnceOption) :
    scan.count option ≤ next.count option := by
  rw [long] at taken
  split at taken
  next => cases taken; exact scan.count_le_option .radix value option
  split at taken
  next => cases taken; exact scan.count_le_option .historyFile value option
  split at taken
  next => cases taken; rcases option with _ | _ | _ <;> simp [count]
  repeat' split at taken
  all_goals cases taken

/-- An argument takes back no option. -/
theorem count_le_of_argument {argument : String} (taken : scan.argument argument = .ok next)
    (option : OnceOption) : scan.count option ≤ next.count option := by
  rw [Scan.argument] at taken
  split at taken
  next => exact (count_of_positional taken option).ge
  next =>
    split at taken
    next => cases taken; rcases option with _ | _ | _ <;> exact Nat.le_refl _
    next => exact count_le_of_long taken option
    next => cases taken
    next =>
      split at taken
      next given _ =>
        cases taken
        cases given <;> rcases option with _ | _ | _ <;> exact Nat.le_refl _
      next => exact (count_of_positional taken option).ge

/-- Whatever arguments follow, options were given as often as before or more often. -/
theorem count_le_of_foldlM {later : Scan}
    (scanned : arguments.foldlM Scan.argument scan = .ok later) (option : OnceOption) :
    scan.count option ≤ later.count option := by
  induction arguments generalizing scan with
  | nil => cases scanned; exact Nat.le_refl _
  | cons argument arguments ih =>
      rw [List.foldlM_cons] at scanned
      cases taken : scan.argument argument with
      | error stop =>
          rw [taken] at scanned
          cases scanned
      | ok next =>
          rw [taken] at scanned
          exact (count_le_of_argument taken option).trans (ih scanned)

end Scan

theorem exists_scan_of_repeated {option : OnceOption}
    (refused : parse arguments = .error (.repeated option)) :
    ∃ scan, Scan.ofArguments arguments = .ok scan ∧ scan.repeated? = some option := by
  cases scanned : Scan.ofArguments arguments with
  | error stop =>
      rw [parse_of_stop scanned] at refused
      cases stop <;> cases refused
  | ok scan =>
      refine ⟨scan, rfl, ?_⟩
      rcases Scan.cases_of_options_error (parse_eq_error_of_scan scanned refused) with
        ⟨other, isRepeated, same⟩ | other | other
      · cases same
        exact isRepeated
      · cases other
      · cases other

/-- Further arguments do not mend a repetition. -/
theorem parse_append_of_repeated {first : List String} {option : OnceOption}
    (refused : parse first = .error (.repeated option)) (rest : List String)
    (options : Options) : parse (first ++ rest) ≠ .ok (.session options) := by
  intro accepted
  obtain ⟨scan, scanned, isRepeated⟩ := exists_scan_of_repeated refused
  cases scannedAll : Scan.ofArguments (first ++ rest) with
  | error stop =>
      rw [parse_of_stop scannedAll] at accepted
      cases stop <;> cases accepted
  | ok later =>
      have continued : rest.foldlM Scan.argument scan = .ok later := by
        rw [Scan.ofArguments] at scanned scannedAll
        rw [List.foldlM_append, scanned] at scannedAll
        exact scannedAll
      -- counts only grow, so the repetition is still there after the rest
      have before : 1 < scan.count option := Scan.one_lt_count_of_repeated? isRepeated
      have grown : scan.count option ≤ later.count option :=
        Scan.count_le_of_foldlM continued option
      obtain ⟨_, accepted, -⟩ := parse_eq_ok_of_scan scannedAll accepted
      have once : later.count option ≤ 1 :=
        Scan.repeated?_eq_none_iff.mp (Scan.repeated?_eq_none_of_options accepted) option
      omega

/-! ## What help and the version look like -/

theorem head?_helpText : helpText.toList.head? = some 'S' := by
  have first : "Sly 0.1\n".toList.head? = some 'S' := by decide
  -- only the first piece of the text is evaluated, the others are left as they stand
  unfold helpText
  simp only [String.append_assoc, -String.reduceAppend]
  exact Text.head?_toList_append first _

theorem head?_versionText : versionText.toList.head? = some 'S' := by
  decide

end CommandLine

theorem beginsOtherwise_outcomeText (outcome : Except ValueError Int) :
    Text.BeginsOtherwise 'S' (outcomeText outcome) := by
  cases outcome with
  | ok number =>
      intro first
      rw [outcomeText, pretty_int, Decimal.toList_ofInt] at first
      have member := List.mem_of_head? first
      exact absurd ((Decimal.isCanonical_characters number).eq_minus_or_isDigit member)
        (by decide)
  | error error =>
      have notice : "error: ".toList.head? = some 'e' := by decide
      rw [Text.BeginsOtherwise, outcomeText, Text.head?_toList_append notice]
      decide

theorem Session.beginsOtherwise_answer {radix : Nat} {reading : Reading} {line : String}
    (member : line ∈ (answer radix reading).value) : Text.BeginsOtherwise 'S' line := by
  cases reading with
  | line text =>
      rw [answer, value_echo] at member
      obtain ⟨token, -, rfl⟩ := List.mem_map.mp member
      exact beginsOtherwise_outcomeText _
  | undecodable =>
      rw [answer, Logged.value_pure, List.mem_singleton] at member
      rw [member]
      decide
  | endOfInput =>
      rw [answer, Logged.value_pure] at member
      cases member

namespace Program

variable {arguments : List String} {options : Options} {files : FileStore} {input : Bytes}

/-- Neither the notice of a session nor its prompt begins like help or the version. -/
theorem beginsOtherwise_opening {opening : Opening}
    (opened : openSource options files.read input = .ok opening) :
    (∀ line ∈ opening.printed, Text.BeginsOtherwise 'S' line) ∧
      Text.BeginsOtherwise 'S' opening.source.prompt := by
  have noPrompt : Text.BeginsOtherwise 'S' "" := by decide
  have nothingPrinted : ∀ line ∈ ([] : List String), Text.BeginsOtherwise 'S' line :=
    List.forall_mem_nil _
  have promptOther : Text.BeginsOtherwise 'S' ">>> " := by decide
  have noticeOther : Text.BeginsOtherwise 'S' noHistoryLine := by decide
  cases inputFile : options.inputFile with
  | some path =>
      rw [openSource, inputFile] at opened
      simp only at opened
      split at opened
      next => cases opened
      next text decoded =>
        cases opened
        exact ⟨nothingPrinted, noPrompt⟩
  | none =>
      cases readline : options.readline with
      | false =>
          rw [openSource, inputFile, readline] at opened
          cases opened
          exact ⟨nothingPrinted, promptOther⟩
      | true =>
          rw [openSource_of_history _ _ inputFile readline] at opened
          cases opened
          refine ⟨fun line member => ?_, noPrompt⟩
          obtain ⟨nothing_iff, notice_iff⟩ := printed_continuedHistory files options.historyFile
          by_cases loads : HistoryLoads files options.historyFile
          · rw [nothing_iff.mpr loads] at member
            cases member
          · rw [notice_iff.mpr loads, List.mem_singleton] at member
            rw [member]
            exact noticeOther

/-- A session prints nothing that begins like help or the version. -/
theorem beginsOtherwise_stdout
    (parsed : CommandLine.parse arguments = .ok (.session options)) :
    Text.BeginsOtherwise 'S' (run arguments files input).value.stdout := by
  have lineFeed : Text.BeginsOtherwise 'S' "\n" := by decide
  cases opened : openSource options files.read input with
  | error failure =>
      rw [run_of_failure input parsed opened]
      simp [Text.BeginsOtherwise]
  | ok opening =>
      obtain ⟨printedOther, promptOther⟩ := beginsOtherwise_opening opened
      obtain ⟨-, printed⟩ := run_of_opening input parsed opened
      rw [printed, Session.text_run]
      apply (Text.beginsOtherwise_unlines lineFeed printedOther).append
      apply (Text.beginsOtherwise_join ?_).append promptOther
      intro piece member
      obtain ⟨reading, -, rfl⟩ := List.mem_map.mp member
      apply promptOther.append
      apply Text.beginsOtherwise_unlines lineFeed
      exact fun line member => Session.beginsOtherwise_answer member

/-- A run that prints help or the version was asked for it. -/
theorem informed_of_stdout
    (printed : (run arguments files input).value.stdout = CommandLine.helpText ∨
      (run arguments files input).value.stdout = CommandLine.versionText) :
    CommandLine.parse arguments = .ok .help ∨ CommandLine.parse arguments = .ok .version := by
  have first : (run arguments files input).value.stdout.toList.head? = some 'S' := by
    rcases printed with isHelp | isVersion
    · rw [isHelp, CommandLine.head?_helpText]
    · rw [isVersion, CommandLine.head?_versionText]
  cases parsed : CommandLine.parse arguments with
  | error error =>
      rw [run, parsed] at first
      cases first
  | ok request =>
      cases request with
      | help => exact Or.inl rfl
      | version => exact Or.inr rfl
      | session options => exact absurd first (beginsOtherwise_stdout parsed)

/-- The first argument that asks for help or the version decides.  If a run prints either
of the texts, then it prints the same one however its arguments go on, whatever the files
and the input are, and it leaves the files as they were.  Arguments that are refused for
one that was not expected stay refused for that one, and after an option that was given
more than once no arguments lead to a session. -/
theorem deciding_argument (first rest : List String) :
    (∀ files input,
      (run first files input).value.stdout = CommandLine.helpText ∨
        (run first files input).value.stdout = CommandLine.versionText →
      ∀ otherFiles otherInput, run (first ++ rest) otherFiles otherInput =
        pure ⟨(run first files input).value.stdout, none, otherFiles⟩) ∧
    (∀ argument,
      CommandLine.Refused first ("error: Found argument '" ++ argument ++
        "' which wasn't expected, or isn't valid in this context") →
      CommandLine.Refused (first ++ rest) ("error: Found argument '" ++ argument ++
        "' which wasn't expected, or isn't valid in this context")) ∧
    ∀ option : CommandLine.OnceOption,
      CommandLine.Refused first ("error: The argument '" ++ option.text ++
        "' was provided more than once, but cannot be used multiple times") →
      ∀ options, CommandLine.parse (first ++ rest) ≠ .ok (.session options) := by
  refine ⟨fun files input printed otherFiles otherInput => ?_,
    fun argument refused => ?_, fun option refused => ?_⟩
  · rcases informed_of_stdout printed with parsed | parsed
    · have answered : CommandLine.parse first = CommandLine.Stop.help.answer := parsed
      rw [run, run, CommandLine.parse_append_of_answer answered rest, answered]
      rfl
    · have answered : CommandLine.parse first = CommandLine.Stop.version.answer := parsed
      rw [run, run, CommandLine.parse_append_of_answer answered rest, answered]
      rfl
  · have answered : CommandLine.parse first = (CommandLine.Stop.unexpected argument).answer :=
      CommandLine.refused_message_iff.mp refused
    exact ⟨_, CommandLine.parse_append_of_answer answered rest, rfl⟩
  · have parsed : CommandLine.parse first = .error (.repeated option) :=
      CommandLine.refused_message_iff.mp refused
    exact CommandLine.parse_append_of_repeated parsed rest

/-- Help is asked for after a radix that would be refused, and an argument that is not
expected stands where the value of an option is missing.  After a repeated option, what
looks like a request for help is an input file. -/
theorem deciding_argument_pending_radix :
    (run ["--radix", "x", "--help"] .empty []).value.stdout = CommandLine.helpText ∧
    run (["--radix", "x", "--help"] ++ ["--radix=99", "--nope", "in"])
        (.ofEntries [(["in"], .file [0x37])]) [0x37] =
      pure ⟨CommandLine.helpText, none, .ofEntries [(["in"], .file [0x37])]⟩ ∧
    CommandLine.Refused (["--radix", "--nope=2"] ++ ["-V", "in"])
      "error: Found argument '--nope' which wasn't expected, or isn't valid in this context" ∧
    ∀ options, CommandLine.parse (["--radix", "--radix=7"] ++ ["--", "--help"]) ≠
      .ok (.session options) := by
  have asked : CommandLine.parse ["--radix", "x", "--help"] = .ok .help := by decide
  have unexpected : CommandLine.parse ["--radix", "--nope=2"] =
      .error (.unexpected "--nope") := by
    decide
  have isRepeated : CommandLine.parse ["--radix", "--radix=7"] =
      .error (.repeated (.value .radix)) := by
    decide
  have isHelp : (run ["--radix", "x", "--help"] .empty []).value.stdout =
      CommandLine.helpText := by
    rw [run, asked]
    rfl
  have unchanged := (deciding_argument ["--radix", "x", "--help"]
    ["--radix=99", "--nope", "in"]).1 .empty [] (Or.inl isHelp)
      (.ofEntries [(["in"], .file [0x37])]) [0x37]
  rw [isHelp] at unchanged
  exact ⟨isHelp, unchanged,
    (deciding_argument ["--radix", "--nope=2"] ["-V", "in"]).2.1 "--nope"
      ⟨_, unexpected, rfl⟩,
    (deciding_argument ["--radix", "--radix=7"] ["--", "--help"]).2.2 (.value .radix)
      ⟨_, isRepeated, rfl⟩⟩

end Program

end ExactInteger
