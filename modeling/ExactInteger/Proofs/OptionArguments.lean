import ExactInteger.CommandLine

/-!
# Arguments that set something

An option that takes a value is followed by it after an equals sign, or by the argument
that holds it.  Any argument that does not begin with a dash is a value or the input
file, whichever the scan waits for.
-/

namespace ExactInteger

namespace CommandLine

/-! ## Forms -/

theorem Form.of_name (option : ValueOption) :
    Form.of ("--" ++ option.name).toList = .long option.name.toList none := by
  cases option <;> decide

theorem Form.of_name_equals (option : ValueOption) {value : String}
    (noEquals : value.toList.head? ≠ some '=') :
    Form.of ("--" ++ option.name ++ "=" ++ value).toList =
      .long option.name.toList (some value.toList) := by
  have kept : value.toList.dropWhile (· == '=') = value.toList := by
    cases text : value.toList with
    | nil => rfl
    | cons first rest =>
        rw [text, List.head?_cons] at noEquals
        rw [List.dropWhile_cons_of_neg (by simpa using noEquals)]
  simp only [String.toList_append]
  cases option with
  | radix => simp [ValueOption.name, Form.of, valueAfterEquals, kept]
  | historyFile => simp [ValueOption.name, Form.of, valueAfterEquals, kept]

theorem Form.of_eq_word {argument : List Char} (noDash : argument.head? ≠ some '-') :
    Form.of argument = .word := by
  cases argument with
  | nil => rfl
  | cons first rest =>
      have other : first ≠ '-' := by simpa using noDash
      simp [Form.of, other]

/-! ## Scanning -/

namespace Scan

theorem long_name (scan : Scan) (option : ValueOption) (value : Option (List Char)) :
    scan.long option.name.toList value = .ok (scan.option option value) := by
  cases option <;> rfl

variable {scan : Scan}

theorem foldlM_cons_of_ok {next : Scan} {argument : String}
    (taken : scan.argument argument = .ok next) (arguments : List String) :
    (argument :: arguments).foldlM Scan.argument scan =
      arguments.foldlM Scan.argument next := by
  rw [List.foldlM_cons, taken]
  rfl

theorem argument_name (notEnded : ¬ scan.ended = true) (option : ValueOption) :
    scan.argument ("--" ++ option.name) = .ok (scan.option option none) := by
  rw [argument, if_neg notEnded, Form.of_name]
  exact scan.long_name option none

theorem argument_name_equals (notEnded : ¬ scan.ended = true) (option : ValueOption)
    {value : String} (noEquals : value.toList.head? ≠ some '=') :
    scan.argument ("--" ++ option.name ++ "=" ++ value) =
      .ok (scan.option option (some value.toList)) := by
  rw [argument, if_neg notEnded, Form.of_name_equals option noEquals]
  exact scan.long_name option (some value.toList)

theorem argument_noReadline (notEnded : ¬ scan.ended = true) :
    scan.argument "--no-readline" =
      .ok { scan with noReadline := scan.noReadline + 1, pending := none } := by
  have form : Form.of "--no-readline".toList = .long "no-readline".toList none := by decide
  rw [argument, if_neg notEnded, form]
  rfl

theorem argument_separator (notEnded : ¬ scan.ended = true) :
    scan.argument "--" = .ok { scan with ended := true, pending := none } := by
  have form : Form.of "--".toList = .separator := by decide
  rw [argument, if_neg notEnded, form]

theorem argument_value (notEnded : ¬ scan.ended = true) {option : ValueOption}
    (isPending : scan.pending = some option) {value : String}
    (noDash : value.toList.head? ≠ some '-') :
    scan.argument value = .ok { scan.assign option value with pending := none } := by
  rw [argument, if_neg notEnded, Form.of_eq_word noDash, isPending]

/-- A value in an argument of its own is taken as it would be after an equals sign. -/
theorem scan_separate (notEnded : ¬ scan.ended = true) (option : ValueOption) {value : String}
    (noDash : value.toList.head? ≠ some '-') :
    ["--" ++ option.name, value].foldlM Scan.argument scan =
      .ok (scan.option option (some value.toList)) := by
  have stillNotEnded : ¬ (scan.option option none).ended = true := by
    cases option <;> exact notEnded
  rw [foldlM_cons_of_ok (argument_name notEnded option),
    foldlM_cons_of_ok (argument_value stillNotEnded rfl noDash), List.foldlM_nil]
  cases option <;> simp [Scan.option, mention, assign, pure, Except.pure]

theorem argument_word (notEnded : ¬ scan.ended = true) (notPending : scan.pending = none)
    {word : String} (noDash : word.toList.head? ≠ some '-') :
    scan.argument word = scan.positional word := by
  rw [argument, if_neg notEnded, Form.of_eq_word noDash, notPending]

theorem argument_of_ended (isEnded : scan.ended = true) (argument : String) :
    scan.argument argument = scan.positional argument := by
  rw [Scan.argument, if_pos isEnded]

theorem positional_of_none (isFree : scan.inputFile = none) (path : String) :
    scan.positional path = .ok { scan with inputFile := some path } := by
  rw [positional, isFree]

theorem options_of_once (once : scan.repeated? = none) :
    scan.options = (readRadix scan.radix.value).map fun radix =>
      { readline := scan.noReadline == 0
        inputFile := scan.inputFile
        historyFile := scan.historyFile.value.getD Options.defaultHistoryFile
        radix } := by
  rw [options, once]

end Scan

theorem parse_of_scan {arguments : List String} {scan : Scan}
    (scanned : Scan.ofArguments arguments = .ok scan) :
    parse arguments = scan.options.map .session := by
  rw [parse, scanned]

end CommandLine

end ExactInteger
