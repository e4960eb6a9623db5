import Netlist.Proofs.Modes
import Netlist.Proofs.RoundTrip

/-!
# Canonical output is stable

What the command prints of a file in its default mode is a canonical text, and
a file that holds this text is printed as it stands.  It amounts to the same
definition as the file that was read, so its JSON is the same as well, and no
mode finds an error in it (`canonical_output_is_stable`).

The reader can meet any text, but what it accepts has only names that can be
read, and a definition with such names is what its canonical text says.  So
printing what was read loses nothing (`parse_text_of_parse_eq_ok`), and it does
not matter whether comments are layout: there are none in a canonical text.
-/

namespace Netlist

/-- The canonical text of a definition that was read is read as the same definition, whether
comments are layout or not. -/
theorem parse_text_of_parse_eq_ok {config : Config} {source : String} {definition : Definition}
    (accepted : parse config source = .ok definition) (other : Config) :
    parse other definition.text = .ok definition := by
  obtain ⟨symbols, derived, said⟩ :=
    @Definition.exists_content_text other.comments _ (isName_of_parse_eq_ok accepted)
  exact parse_eq_ok_iff_content.2 ⟨symbols, said, derived⟩

namespace Command

variable {options : Options} {file : SourceFile}

/-- What a successful run prints depends only on the definition that was read. -/
theorem exists_definition_of_exitCode (succeeds : (run options file).exitCode = 0) :
    ∃ source definition, parse options.config source = .ok definition ∧
      ∀ json, (run { options with json, allErrors := false } file).report =
        ⟨true, Options.print { options with json } definition, ""⟩ := by
  obtain ⟨source, definition, read, accepted⟩ :=
    (success_run_iff options file).1 ((Run.exitCode_eq_zero_iff _).1 succeeds)
  refine ⟨source, definition, accepted, fun json => ?_⟩
  exact @report_run_of_parse_eq_ok { options with json, allErrors := false } _ _ read _ accepted

/-- A file that holds the canonical text of a definition that was read is read as the definition,
and every mode says so. -/
theorem report_run_ofText {config : Config} {source : String} {definition : Definition}
    (accepted : parse config source = .ok definition) (options : Options) (path : String)
    (room : ∀ limit ∈ options.maxBytes, definition.text.utf8ByteSize ≤ limit) :
    (run options (.ofText path definition.text)).report =
      ⟨true, if options.allErrors then "" else options.print definition, ""⟩ :=
  report_run_of_parse_eq_ok (SourceFile.read_ofText path room)
    (parse_text_of_parse_eq_ok accepted options.config)

/-- What a run in the default mode prints is stable.  A file that holds it is read without errors,
whatever the other options, and the default mode prints it again as it stands.  As JSON the file is
the same as the one from which it was made. -/
theorem canonical_output_is_stable (options : Options) (file : SourceFile)
    (canonical : options.json = false) (stops : options.allErrors = false)
    (succeeds : (run options file).exitCode = 0) (again : Options) (path : String)
    (room : ∀ limit ∈ again.maxBytes, (run options file).stdout.utf8ByteSize ≤ limit) :
    let copy := SourceFile.ofText path (run options file).stdout
    (∀ json allErrors, (run { again with json, allErrors } copy).exitCode = 0 ∧
      (run { again with json, allErrors } copy).stderr = "") ∧
    (run { again with json := false, allErrors := false } copy).stdout =
      (run options file).stdout ∧
    (run { again with json := true, allErrors := false } copy).stdout =
      (run { options with json := true } file).stdout ∧
    check again.config (run options file).stdout = [] := by
  obtain ⟨source, definition, accepted, printed⟩ := exists_definition_of_exitCode succeeds
  obtain ⟨json, allErrors, comments, maxBytes, verbosity⟩ := options
  cases canonical
  cases stops
  have text : (run ⟨false, false, comments, maxBytes, verbosity⟩ file).stdout = definition.text :=
    congrArg Report.stdout (printed false)
  rw [text] at room ⊢
  have read (json allErrors : Bool) :=
    report_run_ofText accepted { again with json, allErrors } path room
  refine ⟨fun json allErrors => ⟨?_, ?_⟩, ?_, ?_, ?_⟩
  · rw [Run.exitCode_eq_zero_iff, read json allErrors]
  · exact congrArg Report.stderr (read json allErrors)
  · exact congrArg Report.stdout (read false false)
  · exact congrArg Report.stdout ((read true false).trans (printed true).symm)
  · exact check_eq_nil_of_parse_eq_ok (one_le_maxErrors_config again)
      (parse_text_of_parse_eq_ok accepted again.config)

/-- A statement over two lines with a comment is put in order, and stays so without comments and
with just enough room. -/
theorem canonical_output_is_stable_of_comment :
    let file := SourceFile.ofText "gate.def" "(DEVICE  a/* é */b\nis CLOCK 7)"
    ((run {} file).exitCode = 0 ∧ (run {} file).stdout = "(DEVICE a b are CLOCK 7)\n") ∧
      (run { comments := false, maxBytes := some 25 }
        (.ofText "out.def" "(DEVICE a b are CLOCK 7)\n")).stdout =
          "(DEVICE a b are CLOCK 7)\n" := by
  intro file
  have read : file.read none = .ok "(DEVICE  a/* é */b\nis CLOCK 7)" :=
    SourceFile.read_ofText "gate.def" nofun
  have accepted : parse .default "(DEVICE  a/* é */b\nis CLOCK 7)" =
      .ok ⟨[.device ⟨"a", ["b"]⟩ ⟨.clock, some 7, rfl⟩]⟩ :=
    parse_eq_ok_iff_events.2 (by decide +kernel)
  have printed : (run {} file).report = ⟨true, "(DEVICE a b are CLOCK 7)\n", ""⟩ :=
    (@report_run_of_parse_eq_ok {} _ _ read _ accepted).trans (by decide +kernel)
  have succeeds : (run {} file).exitCode = 0 := by rw [Run.exitCode_eq_zero_iff, printed]
  have stdout : (run {} file).stdout = "(DEVICE a b are CLOCK 7)\n" :=
    congrArg Report.stdout printed
  have room : ∀ limit ∈ some 25, (run {} file).stdout.utf8ByteSize ≤ limit := by
    rw [stdout]
    decide +kernel
  have stable := canonical_output_is_stable {} file rfl rfl succeeds
    { comments := false, maxBytes := some 25 } "out.def" room
  rw [stdout] at stable
  exact ⟨⟨succeeds, stdout⟩, stable.2.1⟩

end Command

end Netlist
