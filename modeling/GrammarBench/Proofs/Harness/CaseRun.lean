import GrammarBench.Harness
import GrammarBench.Proofs.Compile

/-!
# How a case can run

A case goes through seven stages: its area is made, the grammar is put into it, the tool is run, the
input is staged, the driver is rendered, it is written, and it is run. `CaseRun` has one rule for
each way in which a case can end: a stage that fails, a grammar that does not compile, or a result.
A rule names the hosts between the stages, and with the end of the case it says what the bench has
recorded and which host is left. `caseRun_iff` is the one place where the code of a case is opened:
the runs of a case are those by the rules, and all other theorems about cases are by cases on them.

The end of the use of an area is part of every rule but the first, since the area is given up
whatever happens in it.
-/

namespace GrammarBench

/-! ## Cases of both kinds -/

inductive Case where
  | lexer (c : LexerCase)
  | parser (c : ParserCase)
deriving Repr, DecidableEq

namespace Case

def grammarFileName : Case → String
  | lexer c => c.grammarFileName
  | parser c => c.grammarFileName

def grammarText : Case → String
  | lexer c => c.grammarText
  | parser c => c.grammarText

def input : Case → String
  | lexer c => c.input
  | parser c => c.input

def spec : Case → DriverSpec
  | lexer c => c.spec
  | parser c => c.spec

/-- The one option that the bench adds for a case. -/
def option : Case → String
  | lexer _ => noListenerOption
  | parser _ => visitorOption

/-- What the log says of a driver that is not run. -/
def notRun : Case → String
  | lexer _ => "lexer driver not run"
  | parser _ => "parser driver not run"

def request (c : Case) : CompileRequest :=
  (CompileRequest.new c.grammarFileName c.grammarText).withOptions [c.option]

end Case

namespace Harness

def exec (h : Harness) : Case → BenchAction RunOutcome
  | .lexer c => h.execLexer c
  | .parser c => h.execParser c

/-- Both kinds of case are run in the same way. -/
theorem exec_eq (h : Harness) (c : Case) :
    h.exec c = h.withArea fun area =>
      h.runCase area c.grammarFileName c.grammarText c.option c.spec c.input c.notRun := by
  cases c <;> rfl

/-! ## The stages -/

def makeArea (h : Harness) : HostAction StagingArea :=
  StagingArea.create h.config.stagingRoot h.config.keepStaging

/-- Puts the grammar of a case into its area, and gives the options for the tool. -/
def putGrammar (h : Harness) (c : Case) (area : StagingArea) : HostAction (List String) := do
  let outDir ← area.outputDir h.backend.kind
  c.request.writeGrammar outDir
  return c.request.toolOptions outDir

/-- The event for a driver that has no result. -/
def failureEvent (f : Failure) : LogEvent :=
  if f.isSkip then ⟨.info, "Skipping: " ++ f.message, []⟩
  else ⟨.error, "can't exec recognizer: " ++ f.message, []⟩

/-- The event for a grammar that does not compile. -/
def notCompiledEvent (c : Case) : LogEvent :=
  ⟨.warn, c.grammarFileName ++ " did not compile; " ++ c.notRun, []⟩

variable (h : Harness) (c : Case)

/-- The area is made and the grammar lies in it; the tool is to be called on `atTool`. -/
def Prepared (s : Host) (area : StagingArea) (options : List String) (atTool : Host) : Prop :=
  ∃ s₁, h.makeArea.runOn s = (.ok area, s₁)
    ∧ (h.putGrammar c area).runOn s₁ = (.ok options, atTool)

/-- The tool came to its end and left `queue`, which was logged. -/
def Compiled (s : Host) (area : StagingArea) (options : List String) (atTool : Host)
    (queue : DiagnosticQueue) (s' : Host) : Prop :=
  h.Prepared c s area options atTool ∧
    ∃ s₁, (h.tool.process options .empty).runOn atTool = ((queue, none), s₁)
      ∧ s' = s₁.logging (c.request.messageEvents options queue)

/-- No message was an error and the input is staged. -/
def Staged (s : Host) (area : StagingArea) (options : List String) (atTool : Host)
    (queue : DiagnosticQueue) (s' : Host) : Prop :=
  queue.hasErrors = false ∧
    ∃ s₁ path, h.Compiled c s area options atTool queue s₁
      ∧ (area.stageInput c.input).runOn s₁ = (.ok path, s')

/-- The driver is rendered and written; it is to be run on `atCall`. -/
def Ready (s : Host) (area : StagingArea) (options : List String) (atTool : Host)
    (queue : DiagnosticQueue) (driver : String) (entry : Path) (atCall : Host) : Prop :=
  Driver.render c.spec h.backend.kind = .ok driver ∧
    ∃ s₁, h.Staged c s area options atTool queue s₁
      ∧ (area.writeFile (Driver.Template.select c.spec h.backend.kind).fileName driver).runOn s₁
        = (.ok entry, atCall)

/-- How a case runs from a bench: how it ends, and the bench after it. -/
inductive CaseRun (b : Bench) : Except Failure RunOutcome → Bench → Prop
  | noArea {f s} :
      h.makeArea.runOn b.host = (.error f, s) →
      CaseRun b (.error f) { b with host := s }
  | noGrammar {f area s₁ s} :
      h.makeArea.runOn b.host = (.ok area, s₁) →
      (h.putGrammar c area).runOn s₁ = (.error f, s) →
      CaseRun b (.error f) { b with host := area.closed s }
  | toolFailed {f area options queue atTool s} :
      h.Prepared c b.host area options atTool →
      (h.tool.process options .empty).runOn atTool = ((queue, some f), s) →
      CaseRun b (.error f)
        { b with host := area.closed s, calls := b.calls ++ [.tool options atTool.tree] }
  | notCompiled {area options queue atTool s} :
      h.Compiled c b.host area options atTool queue s →
      queue.hasErrors = true →
      CaseRun b (.ok { diagnostics := queue, result := none })
        { b with
          host := area.closed (s.logging [notCompiledEvent c])
          calls := b.calls ++ [.tool options atTool.tree] }
  | noInput {f area options queue atTool s₁ s} :
      h.Compiled c b.host area options atTool queue s₁ →
      queue.hasErrors = false →
      (area.stageInput c.input).runOn s₁ = (.error f, s) →
      CaseRun b (.error f)
        { host := area.closed s, calls := b.calls ++ [.tool options atTool.tree],
          stderrDuringParse := none }
  | notRendered {f area options queue atTool s} :
      h.Staged c b.host area options atTool queue s →
      Driver.render c.spec h.backend.kind = .error f →
      CaseRun b (.error f)
        { host := area.closed s, calls := b.calls ++ [.tool options atTool.tree],
          stderrDuringParse := none }
  | noDriver {f area options queue atTool driver s₁ s} :
      h.Staged c b.host area options atTool queue s₁ →
      Driver.render c.spec h.backend.kind = .ok driver →
      (area.writeFile (Driver.Template.select c.spec h.backend.kind).fileName driver).runOn s₁
        = (.error f, s) →
      CaseRun b (.error f)
        { host := area.closed s, calls := b.calls ++ [.tool options atTool.tree],
          stderrDuringParse := none }
  | notRun {f area options queue atTool driver entry atCall s} :
      h.Ready c b.host area options atTool queue driver entry atCall →
      (h.backend.execute area entry c.input).runOn atCall = (.error f, s) →
      CaseRun b (.error f)
        { host := area.closed (s.logging [failureEvent f])
          calls := b.calls ++ [.tool options atTool.tree, .driver entry c.input atCall.tree]
          stderrDuringParse := none }
  | done {result area options queue atTool driver entry atCall s} :
      h.Ready c b.host area options atTool queue driver entry atCall →
      (h.backend.execute area entry c.input).runOn atCall = (.ok result, s) →
      CaseRun b (.ok { diagnostics := queue, result := some result })
        { host := area.closed s
          calls := b.calls ++ [.tool options atTool.tree, .driver entry c.input atCall.tree]
          stderrDuringParse := result.stderr }

/-! ## The code of a case -/

variable {h c}

/-- The grammar is written, then the tool is called, then its messages are logged. -/
theorem runOn_generate (area : StagingArea) (b : Bench) :
    (h.generate area c.grammarFileName c.grammarText [c.option]).runOn b =
      match (h.putGrammar c area).runOn b.host with
      | (.error f, s) => (.error f, { b with host := s })
      | (.ok options, s) =>
        match (h.tool.process options .empty).runOn s with
        | ((_, some f), s') =>
          (.error f, { b with host := s', calls := b.calls ++ [.tool options s.tree] })
        | ((queue, none), s') =>
          (.ok queue,
            { b with
              host := s'.logging (c.request.messageEvents options queue)
              calls := b.calls ++ [.tool options s.tree] }) := by
  unfold generate putGrammar
  rw [runOn_bind, runOn_bind, Bench.runOn_liftM]
  rcases (area.outputDir h.backend.kind).runOn b.host with ⟨f | outDir, s₁⟩
  · rfl
  dsimp only
  rw [runOn_bind]
  refine (CompileRequest.runOn_compile c.request h.tool outDir _).trans ?_
  rcases (c.request.writeGrammar outDir).runOn s₁ with ⟨f | ⟨⟩, s₂⟩
  · rfl
  · rfl

/-- The event that a driver had no result is all that is added to what the backend does. -/
theorem runOn_execute (area : StagingArea) (entry : Path) (input : String) (s : Host) :
    (h.execute area entry input).runOn s =
      match (h.backend.execute area entry input).runOn s with
      | (.ok result, s') => (.ok result, s')
      | (.error f, s') => (.error f, s'.logging [failureEvent f]) := by
  unfold execute
  rw [runOn_tryCatch]
  rcases (h.backend.execute area entry input).runOn s with ⟨f | result, s'⟩
  · dsimp only
    unfold logFailure failureEvent
    cases f.isSkip <;> rfl
  · rfl

theorem runOn_runDriver (area : StagingArea) (spec : DriverSpec) (input : String) (b : Bench) :
    (h.runDriver area spec input).runOn b =
      match (area.stageInput input).runOn b.host with
      | (.error f, s) => (.error f, { b with host := s, stderrDuringParse := none })
      | (.ok _, s₁) =>
        match (area.writeDriver spec h.backend.kind).runOn s₁ with
        | (.error f, s) => (.error f, { b with host := s, stderrDuringParse := none })
        | (.ok entry, s₂) =>
          match (h.backend.execute area entry input).runOn s₂ with
          | (.error f, s) =>
            (.error f,
              { host := s.logging [failureEvent f], calls := b.calls ++ [.driver entry input s₂.tree],
                stderrDuringParse := none })
          | (.ok result, s) =>
            (.ok result,
              { host := s, calls := b.calls ++ [.driver entry input s₂.tree],
                stderrDuringParse := result.stderr }) := by
  unfold runDriver
  rw [runOn_bind, runOn_modifyThe]
  dsimp only
  rw [runOn_bind, Bench.runOn_liftM]
  rcases (area.stageInput input).runOn b.host with ⟨f | path, s₁⟩
  · rfl
  dsimp only
  rw [runOn_bind, Bench.runOn_liftM]
  rcases (area.writeDriver spec h.backend.kind).runOn s₁ with ⟨f | entry, s₂⟩
  · rfl
  dsimp only
  rw [runOn_bind, Bench.recordDriver, runOn_modifyThe]
  dsimp only
  rw [runOn_bind, Bench.runOn_liftM, runOn_execute]
  rcases (h.backend.execute area entry input).runOn s₂ with ⟨f | result, s⟩
  · rfl
  · rfl

/-- The area is given up after the work in it, however that ended. -/
theorem runOn_withArea {α : Type} (work : StagingArea → BenchAction α) (b : Bench) :
    (h.withArea work).runOn b =
      match h.makeArea.runOn b.host with
      | (.error f, s) => (.error f, { b with host := s })
      | (.ok area, s) =>
        let after := (work area).runOn { b with host := s }
        (after.1, { after.2 with host := area.closed after.2.host }) := by
  unfold withArea makeArea
  rw [runOn_bind, Bench.runOn_liftM]
  rcases (StagingArea.create h.config.stagingRoot h.config.keepStaging).runOn b.host with
    ⟨f | area, s⟩
  · rfl
  dsimp only
  rw [runOn_bind, Bench.runOn_outcomeOf]
  dsimp only
  rw [runOn_bind, Bench.runOn_liftM, StagingArea.runOn_close]
  dsimp only
  rw [runOn_ofExcept]

theorem runOn_runCase (area : StagingArea) (b : Bench) :
    (h.runCase area c.grammarFileName c.grammarText c.option c.spec c.input c.notRun).runOn b =
      match (h.generate area c.grammarFileName c.grammarText [c.option]).runOn b with
      | (.error f, b') => (.error f, b')
      | (.ok queue, b') =>
        if queue.hasErrors then
          (.ok { diagnostics := queue, result := none },
            { b' with host := b'.host.logging [notCompiledEvent c] })
        else
          match (h.runDriver area c.spec c.input).runOn b' with
          | (.error f, b'') => (.error f, b'')
          | (.ok result, b'') => (.ok { diagnostics := queue, result := some result }, b'') := by
  unfold runCase
  rw [runOn_bind]
  rcases (h.generate area c.grammarFileName c.grammarText [c.option]).runOn b with ⟨f | queue, b'⟩
  · rfl
  dsimp only
  cases queue.hasErrors with
  | true => rfl
  | false =>
      simp only [Bool.false_eq_true, if_false]
      rw [runOn_bind]
      rcases (h.runDriver area c.spec c.input).runOn b' with ⟨f | result, b''⟩ <;> rfl

/-- **Every run of a case is by one of the rules.** -/
theorem exec_caseRun (h : Harness) (c : Case) (b : Bench) :
    h.CaseRun c b ((h.exec c).runOn b).1 ((h.exec c).runOn b).2 := by
  rw [exec_eq, runOn_withArea]
  rcases harea : h.makeArea.runOn b.host with ⟨f | area, s₁⟩
  · exact .noArea harea
  dsimp only
  rw [runOn_runCase, runOn_generate]
  dsimp only
  rcases hgrammar : (h.putGrammar c area).runOn s₁ with ⟨f | options, atTool⟩
  · exact .noGrammar harea hgrammar
  have hprepared : h.Prepared c b.host area options atTool := ⟨s₁, harea, hgrammar⟩
  dsimp only
  rcases htool : (h.tool.process options .empty).runOn atTool with ⟨⟨queue, _ | f⟩, s₂⟩
  swap
  · exact .toolFailed hprepared htool
  have hcompiled : h.Compiled c b.host area options atTool queue _ :=
    ⟨hprepared, s₂, htool, rfl⟩
  dsimp only
  cases herrors : queue.hasErrors with
  | true => exact .notCompiled hcompiled herrors
  | false =>
      simp only [Bool.false_eq_true, if_false]
      rw [runOn_runDriver]
      dsimp only
      rcases hinput : (area.stageInput c.input).runOn _ with ⟨f | path, s₃⟩
      · exact .noInput hcompiled herrors hinput
      have hstaged : h.Staged c b.host area options atTool queue s₃ :=
        ⟨herrors, _, path, hcompiled, hinput⟩
      dsimp only
      rw [StagingArea.runOn_writeDriver]
      rcases hrender : Driver.render c.spec h.backend.kind with f | driver
      · exact .notRendered hstaged hrender
      dsimp only
      rcases hdriver : (area.writeFile _ driver).runOn s₃ with ⟨f | entry, atCall⟩
      · exact .noDriver hstaged hrender hdriver
      have hready : h.Ready c b.host area options atTool queue driver entry atCall :=
        ⟨hrender, s₃, hstaged, hdriver⟩
      dsimp only
      rw [List.append_assoc]
      rcases hrun : (h.backend.execute area entry c.input).runOn atCall with ⟨f | result, s₄⟩
      · exact .notRun hready hrun
      · exact .done hready hrun

/-! Each stage that went well leaves a shorter run: one lemma for each of the facts that the rules are
about, from the one before it. -/

theorem exec_of_prepared {b : Bench} {area : StagingArea} {options : List String} {atTool : Host}
    (hprepared : h.Prepared c b.host area options atTool) :
    (h.exec c).runOn b =
      let calls := b.calls ++ [.tool options atTool.tree]
      match (h.tool.process options .empty).runOn atTool with
      | ((_, some f), s) => (.error f, { b with host := area.closed s, calls })
      | ((queue, none), s₁) =>
        let s := s₁.logging (c.request.messageEvents options queue)
        if queue.hasErrors then
          (.ok { diagnostics := queue, result := none },
            { b with host := area.closed (s.logging [notCompiledEvent c]), calls })
        else
          match (h.runDriver area c.spec c.input).runOn { b with host := s, calls } with
          | (.error f, b') => (.error f, { b' with host := area.closed b'.host })
          | (.ok result, b') =>
            (.ok { diagnostics := queue, result := some result },
              { b' with host := area.closed b'.host }) := by
  obtain ⟨s₁, harea, hgrammar⟩ := hprepared
  rw [exec_eq, runOn_withArea, harea]
  dsimp only
  rw [runOn_runCase, runOn_generate, hgrammar]
  dsimp only
  rcases (h.tool.process options .empty).runOn atTool with ⟨⟨queue, _ | f⟩, s₂⟩
  · dsimp only
    cases queue.hasErrors with
    | true => rfl
    | false =>
        simp only [Bool.false_eq_true, if_false]
        rcases (h.runDriver area c.spec c.input).runOn _ with ⟨f | result, b'⟩ <;> rfl
  · rfl

/-- What a case does once its grammar has compiled: its driver is run, and the area given up. -/
theorem exec_of_compiled {b : Bench} {area : StagingArea} {options : List String} {atTool s : Host}
    {queue : DiagnosticQueue}
    (hcompiled : h.Compiled c b.host area options atTool queue s)
    (herrors : queue.hasErrors = false) :
    (h.exec c).runOn b =
      match (h.runDriver area c.spec c.input).runOn
        { b with host := s, calls := b.calls ++ [.tool options atTool.tree] } with
      | (.error f, b') => (.error f, { b' with host := area.closed b'.host })
      | (.ok result, b') =>
        (.ok { diagnostics := queue, result := some result },
          { b' with host := area.closed b'.host }) := by
  obtain ⟨hprepared, s₁, htool, rfl⟩ := hcompiled
  rw [exec_of_prepared hprepared, htool]
  simp only [herrors, Bool.false_eq_true, if_false]

theorem exec_of_staged {b : Bench} {area : StagingArea} {options : List String} {atTool s : Host}
    {queue : DiagnosticQueue} (hstaged : h.Staged c b.host area options atTool queue s) :
    (h.exec c).runOn b =
      let calls := b.calls ++ [.tool options atTool.tree]
      match (area.writeDriver c.spec h.backend.kind).runOn s with
      | (.error f, s') =>
        (.error f, { host := area.closed s', calls, stderrDuringParse := none })
      | (.ok entry, atCall) =>
        let calls := b.calls ++ [.tool options atTool.tree, .driver entry c.input atCall.tree]
        match (h.backend.execute area entry c.input).runOn atCall with
        | (.error f, s') =>
          (.error f, { host := area.closed (s'.logging [failureEvent f]), calls,
                       stderrDuringParse := none })
        | (.ok result, s') =>
          (.ok { diagnostics := queue, result := some result },
            { host := area.closed s', calls, stderrDuringParse := result.stderr }) := by
  obtain ⟨herrors, s₁, path, hcompiled, hinput⟩ := hstaged
  rw [exec_of_compiled hcompiled herrors, runOn_runDriver, hinput]
  dsimp only
  rcases (area.writeDriver c.spec h.backend.kind).runOn s with ⟨f | entry, atCall⟩
  · rfl
  dsimp only
  rw [List.append_assoc]
  rcases (h.backend.execute area entry c.input).runOn atCall with ⟨f | result, s'⟩ <;> rfl

theorem Ready.writeDriver {s : Host} {area : StagingArea} {options : List String} {atTool : Host}
    {queue : DiagnosticQueue} {driver : String} {entry : Path} {atCall : Host}
    (hready : h.Ready c s area options atTool queue driver entry atCall) :
    ∃ s₁, h.Staged c s area options atTool queue s₁
      ∧ (area.writeDriver c.spec h.backend.kind).runOn s₁ = (.ok entry, atCall) := by
  obtain ⟨hrender, s₁, hstaged, hdriver⟩ := hready
  refine ⟨s₁, hstaged, ?_⟩
  rw [StagingArea.runOn_writeDriver, hrender]
  exact hdriver

/-- The rules leave nothing open: a run by a rule is the run of the case. -/
theorem CaseRun.runOn_eq {b b' : Bench} {r : Except Failure RunOutcome}
    (hrun : h.CaseRun c b r b') : (h.exec c).runOn b = (r, b') := by
  cases hrun with
  | noArea harea => rw [exec_eq, runOn_withArea, harea]
  | noGrammar harea hgrammar =>
      rw [exec_eq, runOn_withArea, harea]
      dsimp only
      rw [runOn_runCase, runOn_generate, hgrammar]
  | toolFailed hprepared htool => rw [exec_of_prepared hprepared, htool]
  | notCompiled hcompiled herrors =>
      obtain ⟨hprepared, s₁, htool, rfl⟩ := hcompiled
      rw [exec_of_prepared hprepared, htool]
      simp only [herrors, if_true]
  | noInput hcompiled herrors hinput =>
      rw [exec_of_compiled hcompiled herrors, runOn_runDriver, hinput]
  | notRendered hstaged hrender =>
      rw [exec_of_staged hstaged, StagingArea.runOn_writeDriver, hrender]
  | noDriver hstaged hrender hdriver =>
      rw [exec_of_staged hstaged, StagingArea.runOn_writeDriver, hrender]
      dsimp only
      rw [hdriver]
  | notRun hready hrun =>
      obtain ⟨s₁, hstaged, hdriver⟩ := hready.writeDriver
      rw [exec_of_staged hstaged, hdriver]
      dsimp only
      rw [hrun]
  | done hready hrun =>
      obtain ⟨s₁, hstaged, hdriver⟩ := hready.writeDriver
      rw [exec_of_staged hstaged, hdriver]
      dsimp only
      rw [hrun]

/-- **The runs of a case are those by the rules.** -/
theorem caseRun_iff {b b' : Bench} {r : Except Failure RunOutcome} :
    h.CaseRun c b r b' ↔ (h.exec c).runOn b = (r, b') := by
  constructor
  · exact CaseRun.runOn_eq
  · intro hrun
    have hrule := h.exec_caseRun c b
    rw [hrun] at hrule
    exact hrule

end Harness

end GrammarBench
