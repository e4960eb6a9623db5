import Netlist.Command
import Netlist.Editor
import Netlist.Proofs.Agreement

/-!
# The modes of the command agree

What a run does apart from its log is its *report*: whether it succeeds, and
what it prints on the two other channels.  A report does not depend on how much
the log shows (`report_run_of_read_eq_ok`), and each way to treat a file has
one: the file cannot be read, its errors are listed, its definition is printed,
or the first error is.

A text is accepted by one reading exactly if the other finds no error in it, so
all modes of the command succeed on the same files (`success_run_iff`).  With
this `modes_agree` compares what they print, and with what an editor shows.
-/

namespace Netlist

/-! ## Messages of one line -/

/-- A text without a line feed. -/
def IsLine (text : String) : Prop := '\n' ∉ text.toList

instance (text : String) : Decidable (IsLine text) :=
  inferInstanceAs (Decidable ('\n' ∉ text.toList))

theorem IsLine.append {first second : String} (line : IsLine first) (more : IsLine second) :
    IsLine (first ++ second) := by
  intro feed
  rw [String.toList_append, List.mem_append] at feed
  exact feed.elim line more

theorem isLine_toString (n : Nat) : IsLine (toString n) := by
  intro feed
  have digit := Nat.isDigit_of_mem_toDigits (by decide) (by decide) (Nat.toList_repr ▸ feed)
  cases digit

theorem ReadFailure.isLine_wording {failure : ReadFailure}
    (reason : ∀ reason, failure = .other reason → IsLine reason) : IsLine failure.wording := by
  cases failure with
  | notFound => decide
  | notText => decide
  | other given => exact reason given rfl

theorem FileError.isLine_unreadable {path : String} {failure : ReadFailure} (named : IsLine path)
    (told : IsLine failure.wording) : IsLine (unreadable path failure).message := by
  have opening : IsLine "Failed to read definition file '" := by decide
  have colon : IsLine "': " := by decide
  exact ((opening.append named).append colon).append told

theorem FileError.isLine_tooLarge {path : String} (named : IsLine path) (size limit : Nat) :
    IsLine (tooLarge path size limit).message := by
  have opening : IsLine "Definition file '" := by decide
  have counting : IsLine "' is " := by decide
  have exceeding : IsLine " bytes, exceeding the limit of " := by decide
  have closing : IsLine " bytes" := by decide
  exact (((((opening.append named).append counting).append (isLine_toString size)).append
    exceeding).append (isLine_toString limit)).append closing

/-- If the path of a file and the reason that the system gives are lines, so is the message. -/
theorem SourceFile.isLine_message {file : SourceFile} {limit : Option Nat} {error : FileError}
    (failed : file.read limit = .error error) (named : IsLine file.path)
    (told : ∀ reason, file.content = .error (.other reason) → IsLine reason) :
    IsLine error.message := by
  unfold read at failed
  split at failed
  · rename_i failure given
    cases failed
    refine FileError.isLine_unreadable named (ReadFailure.isLine_wording fun reason other => ?_)
    exact told reason (given.trans (congrArg _ other))
  · split at failed
    · cases failed
      exact FileError.isLine_tooLarge named _ _
    · split at failed
      · cases failed
      · cases failed
        exact FileError.isLine_unreadable named (ReadFailure.isLine_wording nofun)

/-! ## Files that hold a text -/

/-- A file that holds a text. -/
def SourceFile.ofText (path text : String) : SourceFile := ⟨path, .ok text.toUTF8⟩

/-- A text is read back from its file, if the file is not too large. -/
theorem SourceFile.read_ofText (path : String) {text : String} {limit : Option Nat}
    (room : ∀ most ∈ limit, text.utf8ByteSize ≤ most) :
    (ofText path text).read limit = .ok text := by
  have readable : String.fromUTF8? text.toUTF8 = some text := dif_pos text.isValidUTF8
  have fits : ¬limit.any (· < text.toUTF8.size) := by
    cases limit with
    | none => exact nofun
    | some most => exact fun small => Nat.not_lt.2 (room most rfl) (of_decide_eq_true small)
  show (if limit.any (· < text.toUTF8.size) then _ else _) = _
  rw [if_neg fits, readable]

namespace Command

/-! ## Reports -/

/-- What a run does apart from its log. -/
structure Report where
  /-- Whether the file is a definition without errors. -/
  success : Bool
  /-- What is written on the output channel. -/
  stdout : String
  /-- What is written on the error channel. -/
  stderr : String
deriving DecidableEq

/-- The report of a run. -/
def Run.report (run : Run) : Report := ⟨run.success, run.stdout, run.stderr⟩

/-- What an output writes on the output channel. -/
def Output.out? : Output → Option String
  | out text => some text
  | _ => none

/-- What an output writes on the error channel. -/
def Output.err? : Output → Option String
  | err text => some text
  | _ => none

@[simp] theorem Output.out?_out (text : String) : (out text).out? = some text := rfl

@[simp] theorem Output.out?_err (text : String) : (err text).out? = none := rfl

@[simp] theorem Output.out?_log (record : Record) : (log record).out? = none := rfl

@[simp] theorem Output.err?_out (text : String) : (out text).err? = none := rfl

@[simp] theorem Output.err?_err (text : String) : (err text).err? = some text := rfl

@[simp] theorem Output.err?_log (record : Record) : (log record).err? = none := rfl

theorem report_eq (success : Bool) (outputs : List Output) :
    Run.report ⟨success, outputs⟩ =
      ⟨success, String.join (outputs.filterMap Output.out?),
        String.join (outputs.filterMap Output.err?)⟩ :=
  rfl

variable {options : Options} {source : String}

/-- Records are on no other channel than the log. -/
theorem filterMap_records {channel : Output → Option String}
    (silent : ∀ record, channel (.log record) = none) (events : List Event) :
    (records events).filterMap channel = [] := by
  rw [records, List.filterMap_map]
  exact List.filterMap_eq_nil_iff.2 fun record _ => silent record

@[simp] theorem filterMap_out_records (events : List Event) :
    (records events).filterMap Output.out? = [] :=
  filterMap_records (fun _ => rfl) events

@[simp] theorem filterMap_err_records (events : List Event) :
    (records events).filterMap Output.err? = [] :=
  filterMap_records (fun _ => rfl) events

/-- How much the log shows makes no difference to the other channels. -/
theorem filterMap_shows {channel : Output → Option String}
    (silent : ∀ record, channel (.log record) = none) (options : Options)
    (outputs : List Output) :
    (outputs.filter options.shows).filterMap channel = outputs.filterMap channel := by
  rw [List.filterMap_filter]
  congr 1
  funext output
  cases output with
  | out text => rfl
  | err text => rfl
  | log record => rw [silent, ite_self]

theorem report_listErrors (options : Options) (source : String) :
    (listErrors options source).report =
      ⟨(check options.config source).isEmpty, "",
        String.join ((check options.config source).map fun error => error.render source)⟩ := by
  have stdout (errors : List Diagnostic) :
      (errors.map fun error => Output.err (error.render source)).filterMap Output.out? = [] := by
    rw [List.filterMap_map]
    exact List.filterMap_eq_nil_iff.2 fun error _ => rfl
  have stderr (errors : List Diagnostic) :
      (errors.map fun error => Output.err (error.render source)).filterMap Output.err? =
        errors.map fun error => error.render source := by
    rw [List.filterMap_map, ← List.filterMap_eq_map]
    rfl
  rw [listErrors, report_eq]
  simp [stdout, stderr, note, check, List.filterMap_cons]

theorem report_printDefinition_of_eq_ok {definition : Definition}
    (accepted : parse options.config source = .ok definition) :
    (printDefinition options source).report = ⟨true, options.print definition, ""⟩ := by
  have answered : (Reader.ofText options.config source).parse.value = .ok definition := accepted
  simp [printDefinition, answered, report_eq, note, List.filterMap_cons]

theorem report_printDefinition_of_eq_error {error : Diagnostic}
    (rejected : parse options.config source = .error error) :
    (printDefinition options source).report = ⟨false, "", error.render source⟩ := by
  have answered : (Reader.ofText options.config source).parse.value = .error error := rejected
  simp [printDefinition, answered, report_eq, List.filterMap_cons]

/-! ## Runs on texts -/

theorem one_le_maxErrors_config (options : Options) : 1 ≤ options.config.maxErrors :=
  Nat.le_add_left 1 49

/-- On an accepted text every mode succeeds, and only one that lists errors prints nothing. -/
theorem report_runText_of_eq_ok {definition : Definition}
    (accepted : parse options.config source = .ok definition) :
    (runText options source).report =
      ⟨true, if options.allErrors then "" else options.print definition, ""⟩ := by
  rw [runText]
  split
  · rw [report_listErrors, check_eq_nil_of_parse_eq_ok (one_le_maxErrors_config options) accepted]
    rfl
  · exact report_printDefinition_of_eq_ok accepted

/-- On any other text every mode fails, and prints the first error or all of them. -/
theorem report_runText_of_eq_error {error : Diagnostic}
    (rejected : parse options.config source = .error error) :
    (runText options source).report =
      ⟨false, "", if options.allErrors then
          String.join ((check options.config source).map fun error => error.render source)
        else error.render source⟩ := by
  rw [runText]
  split
  · obtain ⟨later, reported⟩ :=
      exists_check_eq_cons_of_parse_eq_error (one_le_maxErrors_config options) rejected
    rw [report_listErrors, reported]
    rfl
  · exact report_printDefinition_of_eq_error rejected

/-! ## Runs on files -/

variable {file : SourceFile}

theorem run_of_read_eq_error (options : Options) {error : FileError}
    (failed : file.read options.maxBytes = .error error) :
    run options file = ⟨false, [.err error.render]⟩ := by
  rw [run, failed]

/-- The report of a run on a file is that of a run on its text. -/
theorem report_run_of_read_eq_ok (read : file.read options.maxBytes = .ok source) :
    (run options file).report = (runText options source).report := by
  rw [run, read]
  simp only [report_eq]
  rw [filterMap_shows fun _ => rfl, filterMap_shows fun _ => rfl]
  rfl

theorem report_run_of_parse_eq_ok (read : file.read options.maxBytes = .ok source)
    {definition : Definition} (accepted : parse options.config source = .ok definition) :
    (run options file).report =
      ⟨true, if options.allErrors then "" else options.print definition, ""⟩ :=
  (report_run_of_read_eq_ok read).trans (report_runText_of_eq_ok accepted)

theorem report_run_of_parse_eq_error (read : file.read options.maxBytes = .ok source)
    {error : Diagnostic} (rejected : parse options.config source = .error error) :
    (run options file).report =
      ⟨false, "", if options.allErrors then
          String.join ((check options.config source).map fun error => error.render source)
        else error.render source⟩ :=
  (report_run_of_read_eq_ok read).trans (report_runText_of_eq_error rejected)

/-- A run succeeds exactly if the text of the file can be read and is accepted. -/
theorem success_run_iff (options : Options) (file : SourceFile) :
    (run options file).report.success = true ↔
      ∃ source definition, file.read options.maxBytes = .ok source ∧
        parse options.config source = .ok definition := by
  cases read : file.read options.maxBytes with
  | error error =>
    rw [run_of_read_eq_error options read]
    simp [report_eq]
  | ok source =>
    cases answer : parse options.config source with
    | ok definition => simp [report_run_of_parse_eq_ok read answer, answer]
    | error error => simp [report_run_of_parse_eq_error read answer, answer]

theorem Run.exitCode_eq_zero_iff (run : Run) : run.exitCode = 0 ↔ run.report.success = true := by
  obtain ⟨success, outputs⟩ := run
  cases success with
  | false => exact iff_of_false (show (1 : UInt32) ≠ 0 by decide) nofun
  | true => exact iff_of_true rfl rfl

theorem Run.exitCode_eq_one_iff (run : Run) : run.exitCode = 1 ↔ run.report.success = false := by
  obtain ⟨success, outputs⟩ := run
  cases success with
  | false => exact iff_of_true rfl rfl
  | true => exact iff_of_false (show (0 : UInt32) ≠ 1 by decide) nofun

/-- Whether a run succeeds does not depend on what it prints. -/
theorem exitCode_run (options : Options) (json allErrors : Bool) (file : SourceFile) :
    (run { options with json, allErrors } file).exitCode = (run options file).exitCode := by
  have same : (run { options with json, allErrors } file).report.success =
      (run options file).report.success := by
    rw [Bool.eq_iff_iff, success_run_iff, success_run_iff]
    rfl
  show (if (run { options with json, allErrors } file).report.success then _ else _) = _
  rw [same]
  rfl

/-- A run that fails or lists errors writes nothing on the output channel. -/
theorem stdout_run (silent : (run options file).exitCode = 1 ∨ options.allErrors) :
    (run options file).report.stdout = "" := by
  rw [Run.exitCode_eq_one_iff] at silent
  cases read : file.read options.maxBytes with
  | error error =>
    rw [run_of_read_eq_error options read]
    rfl
  | ok source =>
    cases answer : parse options.config source with
    | error error => rw [report_run_of_parse_eq_error read answer]
    | ok definition =>
      rw [report_run_of_parse_eq_ok read answer] at silent ⊢
      have lists : options.allErrors := silent.resolve_left nofun
      rw [if_pos lists]

/-- A run that stops at the first error prints its snippet. -/
theorem stderr_run_of_eq_error (options : Options) (read : file.read options.maxBytes = .ok source)
    (stops : options.allErrors = false) {error : Diagnostic}
    (rejected : parse options.config source = .error error) :
    (run options file).report.stderr = error.render source := by
  rw [report_run_of_parse_eq_error read rejected, stops]
  rfl

/-- A run that lists errors prints the snippets of all errors that a check finds. -/
theorem stderr_run_of_allErrors (options : Options) (read : file.read options.maxBytes = .ok source)
    (lists : options.allErrors) :
    (run options file).report.stderr =
      String.join ((check options.config source).map fun error => error.render source) := by
  rw [report_run_of_read_eq_ok read, runText, if_pos lists, report_listErrors]

/-- With comments as layout a run reads a text as an editor does. -/
theorem snippets_eq (layout : options.comments) (source : String) :
    Editor.snippets source =
      (check options.config source).map fun error => error.render source := by
  rw [Editor.snippets, Options.config, layout]
  rfl

theorem exitCode_run_eq_zero_iff (read : file.read options.maxBytes = .ok source) :
    (run options file).exitCode = 0 ↔ check options.config source = [] := by
  rw [Run.exitCode_eq_zero_iff]
  cases answer : parse options.config source with
  | ok definition =>
    rw [report_run_of_parse_eq_ok read answer,
      check_eq_nil_of_parse_eq_ok (one_le_maxErrors_config options) answer]
    simp
  | error error =>
    obtain ⟨later, reported⟩ :=
      exists_check_eq_cons_of_parse_eq_error (one_le_maxErrors_config options) answer
    rw [report_run_of_parse_eq_error read answer, reported]
    simp

/-! ## The main result -/

/-- The modes of the command agree, whatever the file holds.  All of them succeed or all of them
fail, and one that fails or lists errors writes nothing on the output channel.  If the file cannot
be read, then each of them writes the same line and nothing else.  If its text is not accepted, then
one that stops at the first error prints what one that lists errors prints first.  With comments as
layout one that lists errors prints what an editor shows, and it succeeds if that is nothing. -/
theorem modes_agree (options : Options) (file : SourceFile) :
    (∀ json allErrors, (run { options with json, allErrors } file).exitCode =
      (run options file).exitCode) ∧
    ((run options file).exitCode = 1 ∨ options.allErrors → (run options file).stdout = "") ∧
    (∀ error, file.read options.maxBytes = .error error →
      (∀ json allErrors, (run { options with json, allErrors } file).outputs =
        [.err ("error: " ++ error.message ++ "\n")]) ∧
      (IsLine file.path → (∀ reason, file.content = .error (.other reason) → IsLine reason) →
        IsLine error.message)) ∧
    ∀ source, file.read options.maxBytes = .ok source →
      (∀ error, parse options.config source = .error error →
        ∃ later, check options.config source = error :: later ∧
          (∀ json, (run { options with json, allErrors := false } file).stderr =
            error.render source) ∧
          ∀ json, (run { options with json, allErrors := true } file).stderr =
            String.join ((error :: later).map fun error => error.render source)) ∧
      (options.comments →
        (∀ json, (run { options with json, allErrors := true } file).stderr =
          String.join (Editor.snippets source)) ∧
        (Editor.snippets source = [] ↔ (run options file).exitCode = 0)) := by
  refine ⟨fun json allErrors => exitCode_run options json allErrors file, stdout_run,
    fun error failed => ⟨fun json allErrors => ?_, SourceFile.isLine_message failed⟩, fun source read =>
    ⟨fun error rejected => ?_, fun layout => ⟨fun json => ?_, ?_⟩⟩⟩
  · rw [run_of_read_eq_error { options with json, allErrors } failed]
    rfl
  · obtain ⟨later, reported⟩ :=
      exists_check_eq_cons_of_parse_eq_error (one_le_maxErrors_config options) rejected
    refine ⟨later, reported, fun json => ?_, fun json => ?_⟩
    · exact stderr_run_of_eq_error { options with json, allErrors := false } read rfl
        rejected
    · rw [← reported]
      exact stderr_run_of_allErrors { options with json, allErrors := true } read rfl
  · rw [snippets_eq layout]
    exact stderr_run_of_allErrors { options with json, allErrors := true } read rfl
  · rw [snippets_eq layout, exitCode_run_eq_zero_iff read, List.map_eq_nil_iff]

/-- Of a text with two errors one mode shows the first, and the other goes on behind it. -/
theorem modes_agree_on_two_errors :
    let source := "() // é\n(PRINT)"
    let file := SourceFile.ofText "q.def" source
    let first : Diagnostic := .misplaced ⟨1, 1, 2⟩ ")" .unknownStatement
    (file.read none = .ok source ∧ parse .default source = .error first) ∧
      (∀ json, (run { json } file).stderr = first.render source) ∧
      (∃ later, ∀ json, (run { json, allErrors := true } file).stderr =
        String.join (first.render source :: later)) ∧
      ∀ json, (run { json, allErrors := true } file).stderr =
        String.join (Editor.snippets source) := by
  intro source file first
  have read : file.read none = .ok source := SourceFile.read_ofText "q.def" nofun
  have rejected : parse .default source = .error first := parse_eq_error_iff.2 (by decide +kernel)
  obtain ⟨-, -, -, texts⟩ := modes_agree {} file
  obtain ⟨stops, layout⟩ := texts source read
  obtain ⟨later, -, one, all⟩ := stops first rejected
  exact ⟨⟨read, rejected⟩, one, ⟨_, all⟩, (layout rfl).1⟩

end Command

end Netlist
