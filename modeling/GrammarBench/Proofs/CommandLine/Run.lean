import GrammarBench.CommandLine.Run
import GrammarBench.Proofs.Child.Interpreter
import GrammarBench.Proofs.Child.Tool
import GrammarBench.Proofs.Harness.CaseRun

/-!
# Commands that run a case

A command for a lexer or a parser reads its settings and its case, and then runs the case on a new
bench. `Setup` is what it has read; `runTask_of_reads` says that with it the command is the run of
one case, and `reads_of_ok` that without it there is no report. The format of the report and the
ends of drivers make no difference to any of this.
-/

namespace GrammarBench

/-- The same outside, where a driver ends in another way. A program is a driver when it is started
in a directory of its own. -/
def Outside.withDriverEndings (outside : Outside) (ending : Command → Host → Ending) : Outside :=
  { outside with
    launch := fun command => do
      let s ← get
      let result ← outside.launch command
      return result.map fun run =>
        if command.directory.isSome then { run with ending := ending command s } else run }

namespace CommandLine

/-! ## What a command reads -/

/-- The case that a task is about, if it can be read. A task that shows a driver is about none. -/
def Task.case? (s : Host) : Task → Option (Except Abort Case)
  | .lex task => some ((task.case s.tree s.cwd).map .lexer)
  | .parse task => some ((task.case s.tree s.cwd).map .parser)
  | .render _ => none

theorem Task.case?_of_ne_render {task : Task} (h : ∀ t, task ≠ .render t) (s : Host) :
    ∃ case, task.case? s = some case := by
  cases task with
  | lex t => exact ⟨_, rfl⟩
  | parse t => exact ⟨_, rfl⟩
  | render t => exact absurd rfl (h t)

/-- What the driver of the task should print, if that was said. -/
def Task.expect? : Task → Option String
  | .lex task => task.expect
  | .parse task => task.expect
  | .render _ => none

/-- What a command has read when it begins to run its case. -/
structure Setup where
  config : HarnessConfig
  case : Case
  tool : CommandTool
  interpreter : Interpreter

namespace Setup

def harness (x : Setup) (outside : Outside) : Harness where
  config := x.config
  tool := x.tool.grammarTool outside.launch
  backend := x.interpreter.backend outside.launch

end Setup

/-- The command reads all that it needs to run its case. -/
structure Invocation.Reads (i : Invocation) (env : Environment) (s : Host) (x : Setup) : Prop where
  config : loadConfig env s.tree s.cwd i.config = .ok x.config
  case : i.task.case? s = some (.ok x.case)
  tool : CommandTool.ofConfig x.config = .ok x.tool
  interpreter : Interpreter.ofConfig x.config = .ok x.interpreter

/-! ## The actions of a command -/

theorem runOn_onBench {α : Type} (action : BenchAction α) (s : Host) :
    (onBench action).runOn s =
      match action.runOn (Bench.fresh s) with
      | (.error f, b) => (.error (.failure f), b.host)
      | (.ok x, b) => (.ok x, b.host) := by
  have hopen : (onBench action).runOn s = (orAbort (action.runOn (Bench.fresh s)).1,
      (action.runOn (Bench.fresh s)).2.host) := rfl
  rw [hopen]
  rcases action.runOn (Bench.fresh s) with ⟨f | x, b⟩ <;> rfl

theorem runOn_runCase (i : Invocation) (outside : Outside) (config : HarnessConfig)
    (execute : Harness → BenchAction RunOutcome) (expect : Option String) (s : Host) :
    (runCase i outside config execute expect).runOn s =
      match Harness.ofConfig outside config i.backend with
      | .error f => (.error (.failure f), s)
      | .ok h =>
        match (execute h).runOn (Bench.fresh s) with
        | (.error f, b) => (.error (.failure f), b.host)
        | (.ok outcome, b) => (.ok (.ofOutcome i.backend outcome expect), b.host) := by
  unfold runCase
  rw [runOn_bind, runOn_liftM_except]
  rcases Harness.ofConfig outside config i.backend with f | h
  · rfl
  have hok : (orAbort (.ok h) : Except Abort Harness) = .ok h := rfl
  rw [hok]
  dsimp only
  rw [runOn_bind, runOn_onBench]
  rcases (execute h).runOn (Bench.fresh s) with ⟨f | outcome, b⟩ <;> rfl

theorem ofConfig_process {outside : Outside} {config : HarnessConfig} {h : Harness} :
    Harness.ofConfig outside config .process = .ok h ↔
      ∃ tool interpreter, CommandTool.ofConfig config = .ok tool
        ∧ Interpreter.ofConfig config = .ok interpreter
        ∧ h = { config, tool := tool.grammarTool outside.launch,
                backend := interpreter.backend outside.launch } := by
  unfold Harness.ofConfig Backend.ofConfig
  rcases CommandTool.ofConfig config with f | tool
  · simp
  · rcases Interpreter.ofConfig config with f | interpreter
    · simp
    · simp only [ok_bind, pure, Except.pure]
      constructor
      · rintro ⟨⟩
        exact ⟨tool, interpreter, rfl, rfl, rfl⟩
      · rintro ⟨_, _, ⟨⟩, ⟨⟩, rfl⟩
        rfl

variable {i : Invocation} {env : Environment} {outside : Outside} {colours : Bool} {s s' : Host}

theorem runOn_shown (i : Invocation) (colours : Bool) (action : CommandAction CaseReport)
    (s : Host) :
    (do
      let report ← action
      return (report.status, Screen.report i.format colours report) :
        CommandAction (Status × Screen)).runOn s =
      match action.runOn s with
      | (.error a, s') => (.error a, s')
      | (.ok report, s') => (.ok (report.status, .report i.format colours report), s') := by
  rw [runOn_bind]
  rcases action.runOn s with ⟨a | report, s'⟩ <;> rfl

/-- A command for a case reads its settings, then its case, and then runs it; of what kind the case
is makes no difference. -/
theorem runOn_runTask {case : Except Abort Case} :
    i.task.case? s = some case → (runTask i env outside colours).runOn s =
      match loadConfig env s.tree s.cwd i.config with
      | .error a => (.error a, s)
      | .ok config =>
        match case with
        | .error a => (.error a, s)
        | .ok c =>
          match (runCase i outside config (·.exec c) i.task.expect?).runOn s with
          | (.error a, s') => (.error a, s')
          | (.ok report, s') => (.ok (report.status, .report i.format colours report), s') := by
  intro hcase
  unfold runTask
  rw [runOn_bind, runOn_get]
  dsimp only
  rcases htask : i.task with task | task | task
  · rw [htask] at hcase
    cases hcase
    dsimp only
    rw [runOn_bind, runOn_liftM_except]
    rcases loadConfig env s.tree s.cwd i.config with a | config
    · rfl
    dsimp only
    rw [runOn_bind, runOn_liftM_except]
    rcases task.case s.tree s.cwd with a | c
    · rfl
    exact runOn_shown i colours _ s
  · rw [htask] at hcase
    cases hcase
    dsimp only
    rw [runOn_bind, runOn_liftM_except]
    rcases loadConfig env s.tree s.cwd i.config with a | config
    · rfl
    dsimp only
    rw [runOn_bind, runOn_liftM_except]
    rcases task.case s.tree s.cwd with a | c
    · rfl
    exact runOn_shown i colours _ s
  · rw [htask] at hcase
    cases hcase

/-- With all that it needs, a command is the run of one case on a new bench. -/
theorem runTask_of_reads (hprocess : i.backend = .process) {x : Setup} (h : i.Reads env s x) :
    (runTask i env outside colours).runOn s =
      match ((x.harness outside).exec x.case).runOn (Bench.fresh s) with
      | (.error f, b) => (.error (.failure f), b.host)
      | (.ok outcome, b) =>
        let report := CaseReport.ofOutcome i.backend outcome i.task.expect?
        (.ok (report.status, .report i.format colours report), b.host) := by
  have hharness : Harness.ofConfig outside x.config i.backend = .ok (x.harness outside) := by
    rw [hprocess]
    exact ofConfig_process.mpr ⟨x.tool, x.interpreter, h.tool, h.interpreter, rfl⟩
  rw [runOn_runTask h.case, h.config]
  dsimp only
  rw [runOn_runCase, hharness]
  dsimp only
  rcases ((x.harness outside).exec x.case).runOn (Bench.fresh s) with ⟨f | outcome, b⟩ <;> rfl

/-- There is no report without all that the command needs. -/
theorem reads_of_ok (hprocess : i.backend = .process) (htask : ∀ t, i.task ≠ .render t)
    {y : Status × Screen} (h : (runTask i env outside colours).runOn s = (.ok y, s')) :
    ∃ x, i.Reads env s x := by
  obtain ⟨case, hcase⟩ := Task.case?_of_ne_render htask s
  rw [runOn_runTask hcase] at h
  rcases hconfig : loadConfig env s.tree s.cwd i.config with a | config
  · rw [hconfig] at h
    cases h
  rw [hconfig] at h
  rcases case with a | c
  · cases h
  dsimp only at h
  rw [runOn_runCase, hprocess] at h
  rcases hharness : Harness.ofConfig outside config .process with f | harness
  · rw [hharness] at h
    cases h
  obtain ⟨tool, interpreter, htool, hinterpreter, -⟩ := ofConfig_process.mp hharness
  exact ⟨⟨config, c, tool, interpreter⟩, hconfig, hcase, htool, hinterpreter⟩

/-! ## What makes no difference -/

/-- The format decides what is shown, and nothing else. -/
theorem status_of_format (i : Invocation) (format : OutputFormat)
    (htask : ∀ t, i.task ≠ .render t) :
    ((runTask { i with format } env outside colours).runOn s).1.map (·.1)
      = ((runTask i env outside colours).runOn s).1.map (·.1) := by
  obtain ⟨case, hcase⟩ := Task.case?_of_ne_render htask s
  have hcase' : { i with format }.task.case? s = some case := hcase
  rw [runOn_runTask hcase, runOn_runTask hcase']
  dsimp only
  rcases loadConfig env s.tree s.cwd i.config with a | config
  · rfl
  rcases case with a | c
  · rfl
  have hrun : runCase { i with format } outside config (·.exec c) i.task.expect?
    = runCase i outside config (·.exec c) i.task.expect? := rfl
  dsimp only
  rw [hrun]
  rcases (runCase i outside config (·.exec c) i.task.expect?).runOn s with ⟨a | report, s'⟩ <;> rfl

variable (ending : Command → Host → Ending)

theorem runOn_launch_withDriverEndings (command : Command) (s : Host) :
    ((outside.withDriverEndings ending).launch command).runOn s =
      (((outside.launch command).runOn s).1.map fun run =>
          if command.directory.isSome then { run with ending := ending command s } else run,
        ((outside.launch command).runOn s).2) := rfl

/-- The tool is started where the bench works, so it is no driver. -/
theorem grammarTool_withDriverEndings (t : CommandTool) :
    t.grammarTool (outside.withDriverEndings ending).launch = t.grammarTool outside.launch := by
  have hprocess : ∀ options queue s,
      (t.process (outside.withDriverEndings ending).launch options queue).runOn s
        = (t.process outside.launch options queue).runOn s := by
    intro options queue s
    rw [CommandTool.runOn_process, CommandTool.runOn_process, runOn_launch_withDriverEndings]
    rcases (outside.launch (t.command options)).runOn s with ⟨fault | run, s'⟩ <;> rfl
  unfold CommandTool.grammarTool
  congr 1
  funext options queue s
  exact hprocess options queue s

/-- What a driver wrote does not depend on its end. -/
theorem backend_withDriverEndings (interpreter : Interpreter) :
    interpreter.backend (outside.withDriverEndings ending).launch
      = interpreter.backend outside.launch := by
  have hexecute : ∀ area entry input s,
      (interpreter.execute (outside.withDriverEndings ending).launch area entry input).runOn s
        = (interpreter.execute outside.launch area entry input).runOn s := by
    intro area entry input s
    rw [Interpreter.runOn_execute, Interpreter.runOn_execute]
    rcases (area.stageInput input).runOn s with ⟨f | path, s₁⟩
    · rfl
    rcases interpreter.command area entry with f | command
    · rfl
    dsimp only
    rw [Interpreter.runOn_start, Interpreter.runOn_start, runOn_launch_withDriverEndings]
    rcases (outside.launch command).runOn s₁ with ⟨fault | run, s₂⟩
    · rfl
    cases hdir : command.directory.isSome with
    | true =>
        simp only [Except.map, if_true]
        rfl
    | false => simp only [Except.map, Bool.false_eq_true, if_false]
  unfold Interpreter.backend
  congr 1
  funext area entry input s
  exact hexecute area entry input s

theorem ofConfig_withDriverEndings (config : HarnessConfig) :
    Harness.ofConfig (outside.withDriverEndings ending) config .process
      = Harness.ofConfig outside config .process := by
  unfold Harness.ofConfig Backend.ofConfig
  simp only [grammarTool_withDriverEndings, backend_withDriverEndings]

theorem runTask_withDriverEndings (hprocess : i.backend = .process) :
    runTask i env (outside.withDriverEndings ending) colours = runTask i env outside colours := by
  have hcase : ∀ config execute expect,
      runCase i (outside.withDriverEndings ending) config execute expect
        = runCase i outside config execute expect := by
    intro config execute expect
    unfold runCase
    rw [hprocess, ofConfig_withDriverEndings]
  unfold runTask
  simp only [hcase]

end CommandLine

end GrammarBench
