/-
What the flags of the command decide.

The verdict is the file's alone: a check succeeds if the file holds the tree of
a program (`Report.Holds`) in which no error is found, under whatever flags.
Flags choose among the parts of the output (`Shown`) and leave out the warnings.
The exit status is taken from the counts of the summary, the list of errors is
a filtered one, and `hasErrors` looks for one error; `passed_summary` says that
the three agree.
-/

import Scopewise.Command.Report

namespace Scopewise

/-- The verdict of the summary is that of the diagnostics. -/
theorem Analysis.passed_summary (a : Analysis) : a.summary.passed = !a.hasErrors := by
  rw [Bool.eq_iff_iff, Bool.not_eq_true']
  simp [summary, Summary.passed, errors, hasErrors, Diagnostics.errors, Diagnostics.hasErrors]

/-! ### The parts of the output -/

/-- What a check shows of a program. -/
inductive Shown where
  | outline
  | symbols
  | symbolsJson
  | summary

namespace Shown

/-- Every part, in the order of the output. -/
def all : List Shown := [outline, symbols, symbolsJson, summary]

/-- The flag that asks for a part; the summary is always there. -/
def wanted (options : Options) : Shown → Bool
  | outline => options.emitAst
  | symbols => options.emitSymbols
  | symbolsJson => options.symbolsJson
  | summary => true

def text (p : Program) : Shown → String
  | outline => p.outlineText ++ "\n"
  | symbols =>
      (analyze p).table.dump ++ "\n\n" ++ (analyze p).table.statistics.text ++ "\n\n"
  | symbolsJson => (analyze p).table.toJson.pretty ++ "\n"
  | summary => (analyze p).summary.text ++ "\n"

/-- The parts that are wanted, one after the other. -/
def output (options : Options) (p : Program) : String :=
  String.join ((all.filter (wanted options)).map (text p))

/-- The output is that of the flags that ask for parts. -/
theorem output_congr {options options' : Options} (ast : options.emitAst = options'.emitAst)
    (symbols : options.emitSymbols = options'.emitSymbols)
    (json : options.symbolsJson = options'.symbolsJson) (p : Program) :
    output options p = output options' p := by
  have same : wanted options = wanted options' := by
    funext part
    cases part with
    | outline => exact ast
    | symbols => exact symbols
    | symbolsJson => exact json
    | summary => rfl
  rw [output, output, same]

end Shown

/-- The diagnostics that a check prints: the errors, then the warnings. -/
def Options.printed (options : Options) (ds : List Diagnostic) : List Diagnostic :=
  ds.filter (fun d => d.severity = .error) ++
    if options.quiet then [] else ds.filter fun d => d.severity = .warning

namespace Report

/-! ### What a file holds -/

/-- The file could be read, and its text is the tree of `p`. -/
def Holds (file : Except ReadFailure String) (p : Program) : Prop :=
  ∃ text, file = .ok text ∧ Program.ofText text = .ok p

theorem Holds.unique {file : Except ReadFailure String} {p q : Program} (holds : Holds file p)
    (holds' : Holds file q) : p = q := by
  obtain ⟨text, rfl, decoded⟩ := holds
  obtain ⟨_, ⟨⟩, decoded'⟩ := holds'
  exact Except.ok.inj (decoded.symm.trans decoded')

theorem ofFile_of_holds {file : Except ReadFailure String} {p : Program} (holds : Holds file p)
    (options : Options) (path : String) : ofFile options path file = ofProgram options p := by
  obtain ⟨text, rfl, decoded⟩ := holds
  rw [ofFile, decoded]

/-- Without a program there is a message, and it is the same under all flags. -/
theorem ofFile_of_not_holds {file : Except ReadFailure String} (empty : ∀ p, ¬ Holds file p)
    (path : String) : ∃ message, ∀ options, ofFile options path file =
      { stderr := message, exit := 1 } := by
  cases file with
  | error failure => exact ⟨_, fun _ => rfl⟩
  | ok text =>
      cases decoded : Program.ofText text with
      | error e => exact ⟨_, fun options => by rw [ofFile, decoded]; rfl⟩
      | ok p => exact absurd ⟨text, rfl, decoded⟩ (empty p)

/-! ### Reports on programs -/

/-- Parts that are not wanted can be left out or be empty. -/
theorem join_filter {α : Type} (wanted : α → Bool) (text : α → String) (parts : List α) :
    String.join ((parts.filter wanted).map text) =
      String.join (parts.map fun a => part (wanted a) (text a)) := by
  induction parts with
  | nil => rfl
  | cons a rest ih =>
      cases asked : wanted a <;> simp [asked, part, ih]

theorem ofProgram_stdout (options : Options) (p : Program) :
    (ofProgram options p).stdout = Shown.output options p := by
  rw [Shown.output, join_filter]
  simp [ofProgram, Shown.all, Shown.wanted, Shown.text, part, String.append_assoc]

theorem ofProgram_stderr (options : Options) (p : Program) :
    (ofProgram options p).stderr =
      String.join ((options.printed (analyze p).diagnostics).map fun d => d.text ++ "\n\n") := by
  have joined (ds ds' : List Diagnostic) : paragraphs (ds ++ ds') =
      paragraphs ds ++ paragraphs ds' := by
    simp [paragraphs]
  show _ = paragraphs _
  rw [Options.printed, joined]
  cases quiet : options.quiet <;> simp only [ofProgram, part, quiet] <;> rfl

theorem ofProgram_exit (options : Options) (p : Program) :
    (ofProgram options p).exit = if (analyze p).hasErrors then 1 else 0 := by
  simp only [ofProgram, Analysis.passed_summary]
  cases (analyze p).hasErrors <;> rfl

/-- **Flags never change the result of a check.** Under any two choices of flags
the exit status is the same; it is 0 exactly if the file holds the tree of a
program without errors. A file that holds no tree has no output, and the same
message under all flags. The output on a program is made of the parts that are
wanted, whether warnings are left out or the check is traced; its messages are
all errors, then, unless they are left out, all warnings, both in the order in
which they were reported. -/
theorem ofFile_under_flags (options options' : Options) (path : String)
    (file : Except ReadFailure String) :
    (ofFile options path file).exit = (ofFile options' path file).exit ∧
    ((ofFile options path file).exit = 0 ↔
      ∃ p, Holds file p ∧ (analyze p).hasErrors = false) ∧
    ((∀ p, ¬ Holds file p) → (ofFile options path file).stdout = "" ∧
      (ofFile options path file).stderr = (ofFile options' path file).stderr) ∧
    (∀ p, Holds file p →
      (ofFile options path file).stdout = Shown.output options p ∧
      (ofFile options path file).stderr =
        String.join ((options.printed (analyze p).diagnostics).map fun d => d.text ++ "\n\n")) ∧
    (options.emitAst = options'.emitAst → options.emitSymbols = options'.emitSymbols →
      options.symbolsJson = options'.symbolsJson →
      (ofFile options path file).stdout = (ofFile options' path file).stdout) := by
  by_cases held : ∃ p, Holds file p
  · obtain ⟨p, holds⟩ := held
    refine ⟨?_, ?_, fun empty => absurd holds (empty p), ?_, ?_⟩
    · rw [ofFile_of_holds holds, ofFile_of_holds holds, ofProgram_exit, ofProgram_exit]
    · rw [ofFile_of_holds holds, ofProgram_exit]
      constructor
      · intro passed
        exact ⟨p, holds, by simpa using passed⟩
      · rintro ⟨q, holds', clean⟩
        rw [← holds'.unique holds, clean]
        rfl
    · intro q holds'
      rw [ofFile_of_holds holds']
      exact ⟨ofProgram_stdout options q, ofProgram_stderr options q⟩
    · intro ast symbols json
      rw [ofFile_of_holds holds, ofFile_of_holds holds, ofProgram_stdout, ofProgram_stdout,
        Shown.output_congr ast symbols json]
  · have empty : ∀ p, ¬ Holds file p := not_exists.mp held
    obtain ⟨message, reported⟩ := ofFile_of_not_holds empty path
    rw [reported options, reported options']
    refine ⟨rfl, ?_, fun _ => ⟨rfl, rfl⟩, fun p holds => absurd holds (empty p), fun _ _ _ => rfl⟩
    constructor
    · intro passed
      cases passed
    · rintro ⟨p, holds, -⟩
      exact absurd holds (empty p)

end Report

end Scopewise
