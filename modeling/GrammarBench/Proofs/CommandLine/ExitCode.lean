import GrammarBench.Proofs.CommandLine.Run

/-!
# What the exit status tells

The exit status of a command for a lexer or a parser, in terms of what the tool and the driver did.
A command whose run is aborted ends with two or three, and the failure behind the abort decides
which. Of a run that comes to its end the report decides: it is clean exactly when the tool and the
driver were (`passed_of_driverRan`, `failed_of_toolRan`), and these are cases on the rules by which
the case ran.
-/

namespace GrammarBench

/-! ## Reports -/

namespace CaseReport

variable {backend : BackendKind} {outcome : RunOutcome} {expected : Option String}

theorem status_eq_passed {report : CaseReport} : report.status = .passed ↔ report.passed = true := by
  cases h : report.passed <;> simp [status, h]

/-- A grammar that did not compile is never clean, whatever was expected. -/
theorem not_passed_of_hasErrors (h : outcome.diagnostics.hasErrors = true) :
    (ofOutcome backend outcome expected).passed = false := by
  simp [passed, ofOutcome, RunOutcome.compiled, h]

/-- A driver is clean when it wrote no errors and what was expected. -/
theorem passed_of_result {queue : DiagnosticQueue} {result : ExecutionResult}
    (h : queue.hasErrors = false) :
    (ofOutcome backend ⟨queue, some result⟩ expected).passed = true ↔
      result.stderr = none ∧ ∀ text, expected = some text → result.stdout = text := by
  cases expected with
  | none => simp [passed, ofOutcome, matched, RunOutcome.compiled, RunOutcome.stderr, h]
  | some text =>
      simp [passed, ofOutcome, matched, RunOutcome.compiled, RunOutcome.stderr, RunOutcome.output,
        h]

end CaseReport

/-! ## Aborts -/

theorem Failure.isSkip_iff {f : Failure} :
    f.isSkip = true ↔ (∃ name, f = .missingProperty name) ∨ ∃ text, f = .unavailable text := by
  cases f <;> simp [isSkip]

namespace CommandLine

/-- The failure of the run for which a command was given up, if it was one. -/
def Abort.failure? : Abort → Option Failure
  | failure f => some f
  | during _ f => some f
  | unreadable _ _ => none
  | told _ => none

/-- The environment lacks something that the command needs. -/
def Abort.Lacking (a : Abort) : Prop :=
  (∃ name, a.failure? = some (.missingProperty name))
    ∨ ∃ text, a.failure? = some (.unavailable text)

theorem Abort.skipReason?_isSome {a : Abort} : a.skipReason?.isSome = true ↔ a.Lacking := by
  cases a with
  | failure f =>
      have h := @Failure.isSkip_iff f
      cases hskip : f.isSkip <;> simp_all [skipReason?, Lacking, failure?]
  | during context f =>
      have h := @Failure.isSkip_iff f
      cases hskip : f.isSkip <;> simp_all [skipReason?, Lacking, failure?]
  | unreadable context fault => simp [skipReason?, Lacking, failure?]
  | told text => simp [skipReason?, Lacking, failure?]

/-! ## What ran -/

namespace Setup

variable (x : Setup) (outside : Outside) (s : Host) (run : ChildRun)

/-- The tool was started in the run of the case and did `run`. -/
def ToolRan : Prop :=
  ∃ area options atTool s', (x.harness outside).Prepared x.case s area options atTool
    ∧ (outside.launch (x.tool.command options)).runOn atTool = (.ok run, s')

/-- The driver was started in the run of the case and did `run`. -/
def DriverRan : Prop :=
  ∃ area options atTool queue driver entry atCall s',
    (x.harness outside).Ready x.case s area options atTool queue driver entry atCall
      ∧ x.interpreter.Started outside.launch area entry x.case.input atCall run s'

end Setup

variable {i : Invocation} {env : Environment} {outside : Outside} {colours : Bool} {s : Host}
  {x : Setup}

theorem reads_unique {x' : Setup} (h : i.Reads env s x) (h' : i.Reads env s x') : x = x' := by
  obtain ⟨config, case, tool, interpreter⟩ := x
  obtain ⟨config', case', tool', interpreter'⟩ := x'
  obtain rfl : config = config' := Except.ok.inj (h.config.symm.trans h'.config)
  obtain rfl : case = case' := Except.ok.inj (Option.some.inj (h.case.symm.trans h'.case))
  obtain rfl : tool = tool' := Except.ok.inj (h.tool.symm.trans h'.tool)
  obtain rfl : interpreter = interpreter' :=
    Except.ok.inj (h.interpreter.symm.trans h'.interpreter)
  rfl

theorem prepared_unique {h : Harness} {c : Case} {area area' : StagingArea}
    {options options' : List String} {t t' : Host} (hp : h.Prepared c s area options t)
    (hp' : h.Prepared c s area' options' t') : options = options' ∧ t = t' := by
  obtain ⟨s₁, harea, hgrammar⟩ := hp
  obtain ⟨s₂, harea', hgrammar'⟩ := hp'
  rw [harea] at harea'
  cases harea'
  rw [hgrammar] at hgrammar'
  cases hgrammar'
  exact ⟨rfl, rfl⟩

/-- Where the tool came to its end, it was started, and its queue tells how it fared. -/
theorem toolRan_of_compiled {area : StagingArea} {options : List String} {atTool s' : Host}
    {queue : DiagnosticQueue}
    (h : (x.harness outside).Compiled x.case s area options atTool queue s') :
    ∃ run, x.ToolRan outside s run
      ∧ (queue.hasErrors = true ↔ run.ReportsError ∨ run.ending.isSuccess = false) := by
  obtain ⟨hprepared, s₁, htool, -⟩ := h
  obtain ⟨run, hlaunch, herrors⟩ := CommandTool.process_eq_none htool
  exact ⟨run, ⟨area, options, atTool, s₁, hprepared, hlaunch⟩, herrors⟩

theorem toolRan_unique {run run' : ChildRun} (h : x.ToolRan outside s run)
    (h' : x.ToolRan outside s run') : run = run' := by
  obtain ⟨area, options, atTool, s₁, hprepared, hlaunch⟩ := h
  obtain ⟨area', options', atTool', s₂, hprepared', hlaunch'⟩ := h'
  obtain ⟨rfl, rfl⟩ := prepared_unique hprepared hprepared'
  rw [hlaunch] at hlaunch'
  cases hlaunch'
  rfl

/-! ## The verdict on a run -/

/-- A case whose driver ran has its result, and compiled without an error. -/
theorem outcome_of_driverRan {run : ChildRun} (h : x.DriverRan outside s run) :
    ∃ queue b, queue.hasErrors = false
      ∧ ((x.harness outside).exec x.case).runOn (Bench.fresh s)
        = (.ok ⟨queue, some run.result⟩, b) := by
  obtain ⟨area, options, atTool, queue, driver, entry, atCall, s₁, hready, hstarted⟩ := h
  have hexecute : ((x.harness outside).backend.execute area entry x.case.input).runOn atCall
      = (.ok run.result, s₁.logging run.outputEvents) :=
    Interpreter.execute_eq_ok.mpr ⟨run, s₁, hstarted, rfl, rfl⟩
  obtain ⟨-, _, ⟨herrors, -⟩, -⟩ := id hready
  have hrun : (x.harness outside).CaseRun x.case (Bench.fresh s) _ _ := .done hready hexecute
  exact ⟨queue, _, herrors, hrun.runOn_eq⟩

/-- A case with an outcome is one of two: the tool fared badly and the driver did not run, or the
tool fared well and the driver has the result. -/
theorem ran_of_outcome {outcome : RunOutcome} {b : Bench}
    (h : ((x.harness outside).exec x.case).runOn (Bench.fresh s) = (.ok outcome, b)) :
    ∃ toolRun, x.ToolRan outside s toolRun ∧
      (outcome.diagnostics.hasErrors = true
          ∧ (toolRun.ReportsError ∨ toolRun.ending.isSuccess = false)
        ∨ outcome.diagnostics.hasErrors = false
          ∧ toolRun.ending.isSuccess = true ∧ ¬toolRun.ReportsError
          ∧ ∃ driverRun, x.DriverRan outside s driverRun
            ∧ outcome.result = some driverRun.result) := by
  have hrun := Harness.caseRun_iff.mpr h
  cases hrun with
  | notCompiled hcompiled herrors =>
      obtain ⟨toolRun, htool, hbad⟩ := toolRan_of_compiled hcompiled
      exact ⟨toolRun, htool, .inl ⟨herrors, hbad.mp herrors⟩⟩
  | done hready hexecute =>
      obtain ⟨-, _, ⟨herrors, _, _, hcompiled, -⟩, -⟩ := id hready
      obtain ⟨toolRun, htool, hbad⟩ := toolRan_of_compiled hcompiled
      have hgood : ¬(toolRun.ReportsError ∨ toolRun.ending.isSuccess = false) :=
        mt hbad.mpr (by rw [herrors]; exact Bool.false_ne_true)
      obtain ⟨hclean, hsuccess⟩ := not_or.mp hgood
      obtain ⟨driverRun, s₁, hstarted, rfl, -⟩ := Interpreter.execute_eq_ok.mp hexecute
      exact ⟨toolRun, htool, .inr ⟨herrors, by simpa using hsuccess, hclean, driverRun,
        ⟨_, _, _, _, _, _, _, _, hready, hstarted⟩, rfl⟩⟩

def verdict (i : Invocation) (env : Environment) (outside : Outside) (colours : Bool) (s : Host) :
    Except Abort Status :=
  ((runTask i env outside colours).runOn s).1.map (·.1)

/-- The driver wrote no errors and what it should. -/
def Invocation.Accepts (i : Invocation) (run : ChildRun) : Prop :=
  run.bytes .stderr = []
    ∧ ∀ text, i.task.expect? = some text → Text.decodeLossy (run.bytes .stdout) = text

theorem verdict_of_driverRan {run : ChildRun} (hprocess : i.backend = .process)
    (hreads : i.Reads env s x) (h : x.DriverRan outside s run) :
    ∃ status, verdict i env outside colours s = .ok status
      ∧ (status = .passed ↔ i.Accepts run) := by
  obtain ⟨queue, b, herrors, hexec⟩ := outcome_of_driverRan h
  refine ⟨(CaseReport.ofOutcome i.backend ⟨queue, some run.result⟩ i.task.expect?).status, ?_, ?_⟩
  · rw [verdict, runTask_of_reads hprocess hreads, hexec]
    rfl
  · rw [CaseReport.status_eq_passed, CaseReport.passed_of_result herrors,
      ChildRun.result_stderr_eq_none]
    rfl

/-- A command that comes to its end ran the tool, and unless the tool fared badly the driver. -/
theorem ran_of_verdict (hprocess : i.backend = .process) (htask : ∀ t, i.task ≠ .render t)
    {status : Status} (h : verdict i env outside colours s = .ok status) :
    ∃ x toolRun, i.Reads env s x ∧ x.ToolRan outside s toolRun ∧
      (status = .failed ∧ (toolRun.ReportsError ∨ toolRun.ending.isSuccess = false)
        ∨ toolRun.ending.isSuccess = true ∧ ¬toolRun.ReportsError
          ∧ ∃ driverRun, x.DriverRan outside s driverRun) := by
  rcases hrun : (runTask i env outside colours).runOn s with ⟨a | y, s'⟩
  · rw [verdict, hrun] at h
    cases h
  obtain ⟨x, hreads⟩ := reads_of_ok hprocess htask hrun
  rw [verdict, runTask_of_reads hprocess hreads] at h
  rcases hexec : ((x.harness outside).exec x.case).runOn (Bench.fresh s) with ⟨f | outcome, b⟩
  · rw [hexec] at h
    cases h
  rw [hexec] at h
  have hstatus := Except.ok.inj h
  obtain ⟨toolRun, htool, ⟨herrors, hbad⟩ | ⟨-, hsuccess, hclean, driverRun, hdriver, -⟩⟩ :=
    ran_of_outcome hexec
  · refine ⟨x, toolRun, hreads, htool, .inl ⟨?_, hbad⟩⟩
    rw [← hstatus]
    simp [CaseReport.status, CaseReport.not_passed_of_hasErrors herrors]
  · exact ⟨x, toolRun, hreads, htool, .inr ⟨hsuccess, hclean, driverRun, hdriver⟩⟩

/-! ## The exit status -/

def exitStatus (env : Environment) (outside : Outside) (colours : Bool) (args : List String)
    (s : Host) : Nat :=
  ((run env outside colours args).runOn s).1.code

theorem exitStatus_eq {args : List String} (hread : read args = .ok i) :
    exitStatus env outside colours args s = exitCode (verdict i env outside colours s) := by
  have hrun : (run env outside colours args).runOn s
      = (ended colours ((runTask i env outside colours).runOn s).1,
        ((runTask i env outside colours).runOn s).2) := by
    unfold run
    rw [hread]
    rfl
  rw [exitStatus, hrun]
  rfl

theorem exitCode_eq_zero {result : Except Abort Status} :
    exitCode result = 0 ↔ result = .ok .passed := by
  rcases result with a | _ | _
  · cases h : a.skipReason?.isSome <;> simp [exitCode, h]
  · simp [exitCode]
  · simp [exitCode]

theorem exitCode_eq_one {result : Except Abort Status} :
    exitCode result = 1 ↔ result = .ok .failed := by
  rcases result with a | _ | _
  · cases h : a.skipReason?.isSome <;> simp [exitCode, h]
  · simp [exitCode]
  · simp [exitCode]

theorem exitCode_eq_two {result : Except Abort Status} :
    exitCode result = 2 ↔ ∃ a, result = .error a ∧ ¬a.Lacking := by
  rcases result with a | _ | _
  · have hlacking := @Abort.skipReason?_isSome a
    cases h : a.skipReason?.isSome <;> simp_all [exitCode]
  · simp [exitCode]
  · simp [exitCode]

theorem exitCode_eq_three {result : Except Abort Status} :
    exitCode result = 3 ↔ ∃ a, result = .error a ∧ a.Lacking := by
  rcases result with a | _ | _
  · have hlacking := @Abort.skipReason?_isSome a
    cases h : a.skipReason?.isSome <;> simp_all [exitCode]
  · simp [exitCode]
  · simp [exitCode]

/-- What the exit status of the program tells when its arguments `args` say to run a case, as they
do in `i`. -/
structure ExitContract (i : Invocation) (env : Environment) (outside : Outside) (colours : Bool)
    (args : List String) (s : Host) : Prop where
  /-- Zero: tool and driver ran and were clean. That the driver ran includes that the tool came to
  its end and that a driver can be made for the names of the case. -/
  clean : exitStatus env outside colours args s = 0 ↔
    ∃ x toolRun driverRun, i.Reads env s x
      ∧ x.ToolRan outside s toolRun
      ∧ toolRun.ending.isSuccess = true
      ∧ ¬toolRun.ReportsError
      ∧ (∃ driver, Driver.render x.case.spec .process = .ok driver)
      ∧ x.DriverRan outside s driverRun
      ∧ driverRun.bytes .stderr = []
      ∧ ∀ text, i.task.expect? = some text → Text.decodeLossy (driverRun.bytes .stdout) = text
  /-- One: the run came to its end, but the tool or the driver was not clean. -/
  unclean : exitStatus env outside colours args s = 1 ↔
    (∃ status, verdict i env outside colours s = .ok status) ∧ ∃ x, i.Reads env s x ∧
      ((∃ toolRun, x.ToolRan outside s toolRun
          ∧ (toolRun.ReportsError ∨ toolRun.ending.isSuccess = false))
        ∨ ∃ driverRun, x.DriverRan outside s driverRun
          ∧ (driverRun.bytes .stderr ≠ [] ∨ ∃ text, i.task.expect? = some text
            ∧ Text.decodeLossy (driverRun.bytes .stdout) ≠ text))
  /-- Three: the run was aborted since the environment lacks something. -/
  skipped : exitStatus env outside colours args s = 3 ↔
    ∃ a, verdict i env outside colours s = .error a ∧ a.Lacking
  /-- Two: the run was aborted for another reason. -/
  aborted : exitStatus env outside colours args s = 2 ↔
    ∃ a, verdict i env outside colours s = .error a ∧ ¬a.Lacking
  /-- Arguments that differ in the format alone end with the same status. -/
  any_format : ∀ args' format, read args' = .ok { i with format } →
    exitStatus env outside colours args' s = exitStatus env outside colours args s
  /-- How drivers end makes no difference, not even to what is shown. -/
  any_driver_ending : ∀ ending,
    (run env (outside.withDriverEndings ending) colours args).runOn s
      = (run env outside colours args).runOn s

theorem clean_iff (hprocess : i.backend = .process) (htask : ∀ t, i.task ≠ .render t) :
    verdict i env outside colours s = .ok .passed ↔
      ∃ x toolRun driverRun, i.Reads env s x ∧ x.ToolRan outside s toolRun
        ∧ toolRun.ending.isSuccess = true ∧ ¬toolRun.ReportsError
        ∧ x.DriverRan outside s driverRun ∧ i.Accepts driverRun := by
  constructor
  · intro h
    obtain ⟨x, toolRun, hreads, htool, ⟨hfailed, -⟩ | ⟨hsuccess, hclean, driverRun, hdriver⟩⟩ :=
      ran_of_verdict hprocess htask h
    · cases hfailed
    · obtain ⟨status, hstatus, haccepts⟩ := verdict_of_driverRan hprocess hreads hdriver
      rw [h] at hstatus
      exact ⟨x, toolRun, driverRun, hreads, htool, hsuccess, hclean, hdriver,
        haccepts.mp (Except.ok.inj hstatus).symm⟩
  · rintro ⟨x, toolRun, driverRun, hreads, -, -, -, hdriver, haccepts⟩
    obtain ⟨status, hstatus, hpassed⟩ := verdict_of_driverRan hprocess hreads hdriver
    rw [hstatus, hpassed.mpr haccepts]

theorem unclean_iff (hprocess : i.backend = .process) (htask : ∀ t, i.task ≠ .render t) :
    verdict i env outside colours s = .ok .failed ↔
      (∃ status, verdict i env outside colours s = .ok status) ∧ ∃ x, i.Reads env s x ∧
        ((∃ toolRun, x.ToolRan outside s toolRun
            ∧ (toolRun.ReportsError ∨ toolRun.ending.isSuccess = false))
          ∨ ∃ driverRun, x.DriverRan outside s driverRun ∧ ¬i.Accepts driverRun) := by
  constructor
  · intro h
    refine ⟨⟨_, h⟩, ?_⟩
    obtain ⟨x, toolRun, hreads, htool, ⟨-, hbad⟩ | ⟨-, -, driverRun, hdriver⟩⟩ :=
      ran_of_verdict hprocess htask h
    · exact ⟨x, hreads, .inl ⟨toolRun, htool, hbad⟩⟩
    · obtain ⟨status, hstatus, hpassed⟩ := verdict_of_driverRan hprocess hreads hdriver
      rw [h] at hstatus
      have hfailed : ¬i.Accepts driverRun := fun haccepts => by
        rw [hpassed.mpr haccepts] at hstatus
        cases hstatus
      exact ⟨x, hreads, .inr ⟨driverRun, hdriver, hfailed⟩⟩
  · rintro ⟨⟨status, hstatus⟩, x, hreads, hwhy⟩
    cases status with
    | failed => exact hstatus
    | passed =>
        -- a run that passed was clean, and there is only one run
        obtain ⟨x', toolRun', driverRun', hreads', htool', hsuccess, hclean, hdriver', haccepts⟩ :=
          (clean_iff hprocess htask).mp hstatus
        exfalso
        rcases hwhy with ⟨toolRun, htool, hbad⟩ | ⟨driverRun, hdriver, hrefused⟩
        · obtain rfl := reads_unique hreads hreads'
          obtain rfl := toolRan_unique htool htool'
          rcases hbad with herror | hend
          · exact hclean herror
          · rw [hsuccess] at hend
            cases hend
        · obtain ⟨status, hagain, hpassed⟩ := verdict_of_driverRan hprocess hreads hdriver
          rw [hstatus] at hagain
          exact hrefused (hpassed.mp (Except.ok.inj hagain).symm)

/-- **The exit status tells how tool and driver fared.** A run that was not clean in any one respect
is never told as clean. -/
theorem exit_contract {args : List String} (hread : read args = .ok i)
    (hprocess : i.backend = .process) (htask : ∀ t, i.task ≠ .render t) (env : Environment)
    (outside : Outside) (colours : Bool) (s : Host) :
    ExitContract i env outside colours args s := by
  refine
    { clean := ?_
      unclean := ?_
      skipped := ?_
      aborted := ?_
      any_format := ?_
      any_driver_ending := ?_ }
  · rw [exitStatus_eq hread, exitCode_eq_zero, clean_iff hprocess htask]
    constructor
    · rintro ⟨x, toolRun, driverRun, hreads, htool, hsuccess, hclean, hdriver, haccepts⟩
      obtain ⟨_, _, _, _, driver, _, _, _, ⟨hrender, _⟩, _⟩ := id hdriver
      exact ⟨x, toolRun, driverRun, hreads, htool, hsuccess, hclean, ⟨driver, hrender⟩, hdriver,
        haccepts⟩
    · rintro ⟨x, toolRun, driverRun, hreads, htool, hsuccess, hclean, -, hdriver, haccepts⟩
      exact ⟨x, toolRun, driverRun, hreads, htool, hsuccess, hclean, hdriver, haccepts⟩
  · rw [exitStatus_eq hread, exitCode_eq_one, unclean_iff hprocess htask]
    simp only [Invocation.Accepts, not_and_or, not_forall, exists_prop]
  · rw [exitStatus_eq hread, exitCode_eq_three]
  · rw [exitStatus_eq hread, exitCode_eq_two]
  · intro args' format hread'
    rw [exitStatus_eq hread, exitStatus_eq hread']
    exact congrArg exitCode (status_of_format i format htask)
  · intro ending
    unfold run
    rw [hread]
    simp only [runTask_withDriverEndings ending hprocess]

/-! A small run: the tool says nothing, and the driver prints what it should and ends badly. -/

namespace SmallRun

def args : List String := ["lex", "--grammar=L.g4", "--input=a", "--expect=A"]

def invocation : Invocation where
  config := none
  backend := .process
  format := .text
  verbose := false
  task := .lex
    { grammar := "L.g4", lexer := none, input := ⟨some "a", none⟩, showDfa := false,
      expect := some "A" }

def environment : Environment :=
  .ofList [("GRAMTEST_TOOL", "tool"), ("GRAMTEST_NODEJS", "node"), ("GRAMTEST_RUNTIME", "/lib"),
    ("TMPDIR", "/")]

def programs : Outside where
  launch := fun command => return .ok <|
    if command.program = "tool" then ⟨[], .exit 0⟩ else ⟨[(.stdout, [65])], .exit 3⟩
  endpoint := fun _ => .lost

def host : Host where
  system := "linux"
  tree := ⟨[(["L.g4"], .file [76])]⟩
  cwd := []
  serial := 0
  ports := []
  traffic := []
  log := []

end SmallRun

theorem exit_contract_smallRun :
    ExitContract SmallRun.invocation SmallRun.environment SmallRun.programs false SmallRun.args
        SmallRun.host
      ∧ exitStatus SmallRun.environment SmallRun.programs false SmallRun.args SmallRun.host = 0 := by
  refine ⟨exit_contract (i := SmallRun.invocation) rfl rfl ?_ _ _ _ _, by decide +kernel⟩
  intro t h
  cases h

end CommandLine

end GrammarBench
