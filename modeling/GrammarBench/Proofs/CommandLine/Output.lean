import GrammarBench.Proofs.CommandLine.ExitCode
import GrammarBench.Proofs.Harness.Contract

/-!
# What a command writes on the two channels

Whoever compares the output of a driver reads it off the output channel of the program, so nothing
else may stand there. The output channel holds the driver's output and no more, or in the other
format one document, and it is empty when there is no driver output or no report at all
(`output_contract`). Log, messages, error output and mismatches are on the error channel: the log
first, then one line for each message.

A screen is put together piece by piece, and each piece is on one channel only. So the proofs go
piece by piece too, with one lemma for what a piece leaves on each channel.
-/

namespace GrammarBench

/-! ## Styles -/

namespace Style

/-- The first text is the second one with codes for styles put in. -/
inductive Dresses : List Char → List Char → Prop
  | nil : Dresses [] []
  | char {shown text : List Char} (c : Char) : Dresses shown text → Dresses (c :: shown) (c :: text)
  | code {shown text : List Char} (style : Style) :
      Dresses shown text → Dresses (style.code ++ shown) text
  | off {shown text : List Char} : Dresses shown text → Dresses (Style.off ++ shown) text

theorem Dresses.refl (text : List Char) : Dresses text text := by
  induction text with
  | nil => exact .nil
  | cons c text ih => exact .char c ih

theorem Dresses.append {shown text shown' text' : List Char} (h : Dresses shown text)
    (h' : Dresses shown' text') : Dresses (shown ++ shown') (text ++ text') := by
  induction h with
  | nil => exact h'
  | char c _ ih => exact .char c ih
  | code style _ ih => exact List.append_assoc style.code _ _ ▸ .code style ih
  | off _ ih => exact List.append_assoc Style.off _ _ ▸ .off ih

theorem dresses_renew (style : Style) (text : List Char) : Dresses (style.renew text) text := by
  fun_induction renew style text with
  | case1 rest ih =>
      have hoff := Dresses.refl Style.off
      exact List.append_assoc Style.off _ _ ▸ hoff.append (.code style ih)
  | case2 c rest _ ih => exact .char c ih
  | case3 => exact .nil

/-- A styled text is the text, apart from codes. -/
theorem dresses_apply (colours : Bool) (style : Style) (text : String) :
    Dresses (style.apply colours text).toList text.toList := by
  cases colours with
  | false => exact .refl _
  | true =>
      have hinner := (dresses_renew style text.toList).append (.off .nil)
      rw [List.append_nil, List.append_nil] at hinner
      simpa [apply] using Dresses.code style hinner

end Style

/-! ## Pieces of a screen -/

/-- The lines of a log. -/
def logLines (log : List LogEvent) : String :=
  String.join (log.map fun event => event.display ++ "\n")

/-- The line that shows a message: its text and a line break, in a style where there are colours. -/
structure ShowsMessage (colours : Bool) (line : String) (d : Diagnostic) : Prop where
  dressed : Style.Dresses line.toList (d.display ++ "\n").toList
  plain : colours = false → line = d.display ++ "\n"

namespace Screen

variable (colours : Bool)

@[simp] theorem stdout_append (a b : Screen) : (a ++ b).stdout = a.stdout ++ b.stdout := rfl

@[simp] theorem stderr_append (a b : Screen) : (a ++ b).stderr = a.stderr ++ b.stderr := rfl

@[simp] theorem stdout_out (text : String) : (out text).stdout = text := rfl

@[simp] theorem stderr_out (text : String) : (out text).stderr = "" := rfl

@[simp] theorem stdout_err (text : String) : (err text).stdout = "" := rfl

@[simp] theorem stderr_err (text : String) : (err text).stderr = text := rfl

@[simp] theorem stdout_errLine (text : String) : (errLine text).stdout = "" := rfl

@[simp] theorem stderr_errLine (text : String) : (errLine text).stderr = text ++ "\n" := rfl

@[simp] theorem stdout_blank : blank.stdout = "" := rfl

@[simp] theorem stderr_blank : blank.stderr = "" := rfl

theorem showsMessage_diagnostic (d : Diagnostic) :
    ShowsMessage colours (diagnostic colours d).stderr d where
  dressed := by
    rw [diagnostic, stderr_errLine, String.toList_append, String.toList_append]
    exact (Style.dresses_apply colours _ d.display).append (.refl _)
  plain h := by
    subst h
    rfl

@[simp] theorem stdout_diagnostics (ds : List Diagnostic) :
    (diagnostics colours ds).stdout = "" := by
  induction ds with
  | nil => rfl
  | cons d ds ih => simpa [diagnostics, diagnostic] using ih

/-- Each message has one line, in the order of the messages. -/
theorem stderr_diagnostics (ds : List Diagnostic) :
    ∃ lines, (diagnostics colours ds).stderr = String.join lines
      ∧ List.Forall₂ (ShowsMessage colours) lines ds := by
  induction ds with
  | nil => exact ⟨[], rfl, .nil⟩
  | cons d ds ih =>
      obtain ⟨lines, hlines, hshow⟩ := ih
      refine ⟨_ :: lines, ?_, .cons (showsMessage_diagnostic colours d) hshow⟩
      rw [String.join_cons, ← hlines]
      rfl

/-- What is said of a driver that ran, besides its output: its error output as it is, and the two
texts if its output is not the expected one. -/
def remarks (result : ExecutionResult) (expected : Option String) : String :=
  (match result.stderr with
    | some text => Style.boldYellow.apply colours "stderr during parse:" ++ "\n" ++ text
    | none => "") ++
  match expected with
  | some text =>
    if result.stdout = text then ""
    else
      Style.boldRed.apply colours "output mismatch" ++ "\n" ++
        (Style.bold.apply colours "expected:" ++ "\n" ++ text ++ "\n" ++
          (Style.bold.apply colours "actual:" ++ "\n" ++ result.stdout ++ "\n"))
  | none => ""

/-- What is said of a grammar that did not compile. -/
def refusal : String :=
  Style.boldRed.apply colours "Error:" ++ " grammar did not compile; recognizer not run\n"

variable {colours} {backend : BackendKind} {queue : DiagnosticQueue} {expected : Option String}

theorem report_of_hasErrors {result : Option ExecutionResult} (h : queue.hasErrors = true) :
    report .text colours (.ofOutcome backend ⟨queue, result⟩ expected) =
      diagnostics colours queue.all ++ err (refusal colours) := by
  simp [report, CaseReport.ofOutcome, RunOutcome.compiled, h, error, refusal, errLine,
    String.append_assoc]

/-- The output of a driver stands alone on its channel; the remarks follow the messages on the
other one. -/
theorem report_of_result (colours : Bool) (backend : BackendKind) (result : ExecutionResult)
    (expected : Option String) (h : queue.hasErrors = false) :
    (report .text colours (.ofOutcome backend ⟨queue, some result⟩ expected)).stdout = result.stdout
      ∧ (report .text colours (.ofOutcome backend ⟨queue, some result⟩ expected)).stderr =
        (diagnostics colours queue.all).stderr ++ remarks colours result expected := by
  obtain ⟨stdout, stderr⟩ := result
  have hcompiled : (RunOutcome.mk queue (some ⟨stdout, stderr⟩)).compiled = true := by
    simp [RunOutcome.compiled, h]
  simp only [report, CaseReport.ofOutcome, hcompiled, if_true, driverRun, remarks,
    CaseReport.matched, RunOutcome.output, RunOutcome.stderr, Option.map_some, Option.bind_some,
    Option.getD_some, stdout_append, stderr_append, stdout_diagnostics, stdout_out, stderr_out]
  cases stderr <;> cases expected <;>
    simp [driverErrors, mismatch, apply_ite Screen.stdout, apply_ite Screen.stderr,
      String.append_assoc]

end Screen

namespace CommandLine

variable {i : Invocation} {env : Environment} {outside : Outside} {colours : Bool} {s s' : Host}
  {outcome : RunOutcome}

theorem Ended.written_eq (e : Ended) (log : List LogEvent) :
    e.written log = ⟨e.screen.stdout, logLines log ++ e.screen.stderr⟩ := by
  induction log with
  | nil => rfl
  | cons event log ih =>
      have hcons : e.written (event :: log) = .errLine event.display ++ e.written log := rfl
      have hlines : logLines (event :: log) = event.display ++ "\n" ++ logLines log := by
        rw [logLines, List.map_cons, String.join_cons, ← logLines]
      rw [hcons, ih, hlines, String.append_assoc]
      rfl

/-! ## Runs with a report -/

/-- The command runs its case to an outcome, so that it ends with a report. -/
def Invocation.RunsTo (i : Invocation) (env : Environment) (outside : Outside) (s : Host)
    (outcome : RunOutcome) (s' : Host) : Prop :=
  ∃ config c harness b, loadConfig env s.tree s.cwd i.config = .ok config
    ∧ i.task.case? s = some (.ok c)
    ∧ Harness.ofConfig outside config i.backend = .ok harness
    ∧ (harness.exec c).runOn (Bench.fresh s) = (.ok outcome, b) ∧ s' = b.host

/-- The report on an outcome. -/
def Invocation.report (i : Invocation) (outcome : RunOutcome) : CaseReport :=
  .ofOutcome i.backend outcome i.task.expect?

theorem runTask_of_runsTo (h : i.RunsTo env outside s outcome s') :
    (runTask i env outside colours).runOn s =
      (.ok ((i.report outcome).status, .report i.format colours (i.report outcome)), s') := by
  obtain ⟨config, c, harness, b, hconfig, hcase, hharness, hexec, rfl⟩ := h
  rw [runOn_runTask hcase, hconfig]
  dsimp only
  rw [runOn_runCase, hharness]
  dsimp only
  rw [hexec]
  rfl

/-- A command for a case ends with a report or is aborted. -/
theorem runsTo_or_aborted (htask : ∀ t, i.task ≠ .render t) :
    (∃ outcome s', i.RunsTo env outside s outcome s') ∨
      ∃ a s', (runTask i env outside colours).runOn s = (.error a, s') := by
  obtain ⟨case, hcase⟩ := Task.case?_of_ne_render htask s
  rw [runOn_runTask hcase]
  rcases hconfig : loadConfig env s.tree s.cwd i.config with a | config
  · exact .inr ⟨a, s, rfl⟩
  rcases case with a | c
  · exact .inr ⟨a, s, rfl⟩
  dsimp only
  rw [runOn_runCase]
  rcases hharness : Harness.ofConfig outside config i.backend with f | harness
  · exact .inr ⟨_, s, rfl⟩
  dsimp only
  rcases hexec : (harness.exec c).runOn (Bench.fresh s) with ⟨f | outcome, b⟩
  · exact .inr ⟨_, b.host, rfl⟩
  · exact .inl ⟨outcome, b.host, config, c, harness, b, hconfig, hcase, hharness, hexec, rfl⟩

/-- A driver ran exactly when the grammar compiled. -/
theorem result_of_runsTo (h : i.RunsTo env outside s outcome s') :
    (outcome.diagnostics.hasErrors = true ∧ outcome.result = none)
      ∨ outcome.diagnostics.hasErrors = false ∧ ∃ result, outcome.result = some result := by
  obtain ⟨config, c, harness, b, -, -, -, hexec, -⟩ := h
  obtain ⟨area, options, atTool, queue, s₁, -, rfl, hnone, -⟩ :=
    (Harness.caseRun_iff.mpr hexec).outcome
  cases hresult : outcome.result with
  | none => exact .inl ⟨DiagnosticQueue.hasErrors_iff.mpr (hnone.mp hresult), rfl⟩
  | some result =>
      refine .inr ⟨?_, result, rfl⟩
      rw [← Bool.not_eq_true, DiagnosticQueue.hasErrors_iff, ← hnone, hresult]
      exact Option.some_ne_none result

/-! ## The two channels -/

/-- What the program writes on its two channels. -/
def output (env : Environment) (outside : Outside) (colours : Bool) (args : List String)
    (s : Host) : Screen :=
  let ended := (run env outside colours args).runOn s
  ended.1.written ended.2.log

/-- What is on the two channels for an outcome, where the log is `log` and results are shown as
text. -/
structure TextOutput (colours : Bool) (outcome : RunOutcome) (expected : Option String)
    (log : List LogEvent) (output : Screen) : Prop where
  /-- The output channel holds what the driver printed, if the grammar compiled. -/
  compiled : outcome.compiled = true → ∃ result, outcome.result = some result
    ∧ output.stdout = result.stdout
  not_compiled : outcome.compiled = false → outcome.result = none ∧ output.stdout = ""
  /-- The error channel holds the log, one line for each message in their order, and what else is to
  be said. -/
  stderr : ∃ lines, List.Forall₂ (ShowsMessage colours) lines outcome.diagnostics.all
    ∧ output.stderr = logLines log ++ (String.join lines ++
      (outcome.result.elim (Screen.refusal colours) (Screen.remarks colours · expected)))

/-- What the two channels of the program hold when its arguments `args` say to run a case, as they
do in `i`. -/
structure OutputContract (i : Invocation) (env : Environment) (outside : Outside) (colours : Bool)
    (args : List String) (s : Host) : Prop where
  /-- There is a report, or the run is aborted. -/
  ends : (∃ outcome s', i.RunsTo env outside s outcome s') ∨
    ∃ a s', (runTask i env outside colours).runOn s = (.error a, s')
  text : i.format = .text → ∀ outcome s', i.RunsTo env outside s outcome s' →
    TextOutput colours outcome i.task.expect? s'.log (output env outside colours args s)
  json : i.format = .json → ∀ outcome s', i.RunsTo env outside s outcome s' →
    output env outside colours args s = ⟨(i.report outcome).jsonText ++ "\n", logLines s'.log⟩
  /-- An aborted run writes to the error channel alone. -/
  aborted : ∀ a s', (runTask i env outside colours).runOn s = (.error a, s') →
    (output env outside colours args s).stdout = ""

theorem textOutput_report (h : i.RunsTo env outside s outcome s') (log : List LogEvent) :
    TextOutput colours outcome i.task.expect? log
      ⟨(Screen.report .text colours (i.report outcome)).stdout,
        logLines log ++ (Screen.report .text colours (i.report outcome)).stderr⟩ := by
  obtain ⟨lines, hlines, hshow⟩ := Screen.stderr_diagnostics colours outcome.diagnostics.all
  obtain ⟨queue, result⟩ := outcome
  rcases result_of_runsTo h with ⟨herrors, rfl⟩ | ⟨herrors, result, rfl⟩
  · have hcompiled : RunOutcome.compiled ⟨queue, none⟩ = false := by
      rw [RunOutcome.compiled, herrors]
      rfl
    rw [Invocation.report, Screen.report_of_hasErrors herrors]
    exact
      { compiled := fun hc => absurd hc (by rw [hcompiled]; exact Bool.false_ne_true)
        not_compiled := fun _ => ⟨rfl, by simp⟩
        stderr := ⟨lines, hshow, by simp [hlines]⟩ }
  · have hcompiled : RunOutcome.compiled ⟨queue, some result⟩ = true := by
      rw [RunOutcome.compiled, herrors]
      rfl
    obtain ⟨hstdout, hstderr⟩ :=
      Screen.report_of_result colours i.backend result i.task.expect? herrors
    rw [Invocation.report, hstdout, hstderr]
    exact
      { compiled := fun _ => ⟨result, rfl, rfl⟩
        not_compiled := fun hc => absurd hcompiled (by rw [hc]; exact Bool.false_ne_true)
        stderr := ⟨lines, hshow, by simp [hlines]⟩ }

/-- **The output channel holds the output of the driver, or one document, and nothing else.** -/
theorem output_contract {args : List String} (hread : read args = .ok i)
    (htask : ∀ t, i.task ≠ .render t) (env : Environment) (outside : Outside) (colours : Bool)
    (s : Host) : OutputContract i env outside colours args s := by
  have houtput : ∀ r s', (runTask i env outside colours).runOn s = (r, s') →
      output env outside colours args s = (ended colours r).written s'.log := by
    intro r s' hrun
    have hended : (run env outside colours args).runOn s
        = (ended colours ((runTask i env outside colours).runOn s).1,
          ((runTask i env outside colours).runOn s).2) := by
      unfold run
      rw [hread]
      rfl
    rw [output, hended, hrun]
  exact
    { ends := runsTo_or_aborted htask
      text := by
        intro hformat outcome s' h
        rw [houtput _ s' (runTask_of_runsTo h), Ended.written_eq, hformat]
        exact textOutput_report h s'.log
      json := by
        intro hformat outcome s' h
        rw [houtput _ s' (runTask_of_runsTo h), Ended.written_eq, hformat]
        simp [ended, Screen.report]
      aborted := by
        intro a s' h
        rw [houtput _ s' h, Ended.written_eq]
        cases hskip : a.skipReason? <;> simp [ended, hskip, Screen.error, Screen.skipped] }

/-- Programs that leave something on every channel: the tool warns, and the driver complains and
prints what it should not. -/
def noisyPrograms : Outside where
  launch := fun command => return .ok <|
    if command.program = "tool" then ⟨[(.stdout, Text.utf8 "warning(1): w\n")], .exit 0⟩
    else ⟨[(.stderr, Text.utf8 "low\n"), (.stdout, Text.utf8 "B")], .exit 1⟩
  endpoint := fun _ => .lost

theorem output_contract_noisyPrograms :
    OutputContract SmallRun.invocation SmallRun.environment noisyPrograms false SmallRun.args
        SmallRun.host
      ∧ (output SmallRun.environment noisyPrograms false SmallRun.args SmallRun.host).stdout
        = "B" := by
  refine ⟨output_contract (i := SmallRun.invocation) rfl ?_ _ _ _ _, by decide +kernel⟩
  intro t h
  cases h

end CommandLine

end GrammarBench
