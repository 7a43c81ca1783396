import GrammarBench.Proofs.Harness.CaseRun
import Mathlib.Logic.Function.Iterate

/-!
# Cases step by step

A case takes at most seven steps: its area is made, the grammar is written, the tool is run, the
input is staged, the driver is written, it is run, and the area is given up. `advance` takes the
next one, so that other things can happen on the host between two steps. Left to itself it comes to
what the code of a case does (`steps_exec`), which is shown along the rules of `CaseRun`: each stage
that went well is reached after a certain number of steps.
-/

namespace GrammarBench

/-- How far the work in an area has come. -/
inductive Stage where
  | opened
  /-- The grammar lies in the area, and the tool is to be run with these options. -/
  | written (options : List String)
  | compiled (queue : DiagnosticQueue)
  | staged (queue : DiagnosticQueue)
  | ready (queue : DiagnosticQueue) (entry : Path)
deriving Repr, DecidableEq

/-- How far a case has come. -/
inductive Progress where
  | waiting
  | within (area : StagingArea) (stage : Stage)
  /-- It is known how the case ends, and the area is to be given up. -/
  | leaving (area : StagingArea) (r : Except Failure RunOutcome)
  | ended (r : Except Failure RunOutcome)
deriving Repr, DecidableEq

namespace Progress

/-- The area that the case has made and not given up yet. -/
def area? : Progress → Option StagingArea
  | within area _ => some area
  | leaving area _ => some area
  | _ => none

end Progress

namespace Harness

variable (h : Harness) (c : Case)

/-- What is done in an area in one step. -/
def work (area : StagingArea) : Stage → HostAction Progress
  | .opened => do
    let options ← h.putGrammar c area
    return .within area (.written options)
  | .written options => do
    let queue ← CompileRequest.runTool h.tool options
    c.request.logMessages options queue
    if queue.hasErrors then
      Host.logWarn (c.grammarFileName ++ " did not compile; " ++ c.notRun)
      return .leaving area (.ok { diagnostics := queue, result := none })
    return .within area (.compiled queue)
  | .compiled queue => do
    let _ ← area.stageInput c.input
    return .within area (.staged queue)
  | .staged queue => do
    let entry ← area.writeDriver c.spec h.backend.kind
    return .within area (.ready queue entry)
  | .ready queue entry => do
    let result ← h.execute area entry c.input
    return .leaving area (.ok { diagnostics := queue, result := some result })

/-- Takes the next step of a case on a host. A case that has ended does nothing. -/
def advance : Progress × Host → Progress × Host
  | (.waiting, s) =>
    match h.makeArea.runOn s with
    | (.ok area, s') => (.within area .opened, s')
    | (.error f, s') => (.ended (.error f), s')
  | (.within area stage, s) =>
    match (h.work c area stage).runOn s with
    | (.ok next, s') => (next, s')
    | (.error f, s') => (.leaving area (.error f), s')
  | (.leaving area r, s) => (.ended r, (area.close.runOn s).2)
  | (.ended r, s) => (.ended r, s)

/-- A case after some steps that it takes alone on a host. -/
def steps (s : Host) (n : Nat) : Progress × Host :=
  (h.advance c)^[n] (.waiting, s)

@[simp] theorem steps_zero (s : Host) : h.steps c s 0 = (.waiting, s) := rfl

theorem steps_succ (s : Host) (n : Nat) : h.steps c s (n + 1) = h.advance c (h.steps c s n) :=
  Function.iterate_succ_apply' ..

variable {h c} {s s' : Host} {area : StagingArea} {options : List String} {atTool : Host}
  {queue : DiagnosticQueue} {r : Except Failure RunOutcome}

/-! ## The steps in an area as functions -/

theorem runOn_work_written (area : StagingArea) (options : List String) (s : Host) :
    (h.work c area (.written options)).runOn s =
      match (h.tool.process options .empty).runOn s with
      | ((_, some f), s') => (.error f, s')
      | ((queue, none), s') =>
        let s' := s'.logging (c.request.messageEvents options queue)
        if queue.hasErrors then
          (.ok (.leaving area (.ok { diagnostics := queue, result := none })),
            s'.logging [notCompiledEvent c])
        else (.ok (.within area (.compiled queue)), s') := by
  rw [work, runOn_bind, CompileRequest.runOn_runTool]
  rcases (h.tool.process options .empty).runOn s with ⟨⟨queue, _ | f⟩, s'⟩
  · dsimp only
    rw [runOn_bind, CompileRequest.runOn_logMessages]
    dsimp only
    cases queue.hasErrors <;> rfl
  · rfl

theorem runOn_work_ready (area : StagingArea) (queue : DiagnosticQueue) (entry : Path) (s : Host) :
    (h.work c area (.ready queue entry)).runOn s =
      match (h.backend.execute area entry c.input).runOn s with
      | (.ok result, s') =>
        (.ok (.leaving area (.ok { diagnostics := queue, result := some result })), s')
      | (.error f, s') => (.error f, s'.logging [failureEvent f]) := by
  rw [work, runOn_bind, runOn_execute]
  rcases (h.backend.execute area entry c.input).runOn s with ⟨f | result, s'⟩ <;> rfl

/-! ## One step -/

theorem advance_of_error {stage : Stage} {f : Failure}
    (hrun : (h.work c area stage).runOn s = (.error f, s')) :
    h.advance c (.within area stage, s) = (.leaving area (.error f), s') := by
  rw [advance, hrun]

theorem advance_of_ok {stage : Stage} {next : Progress}
    (hrun : (h.work c area stage).runOn s = (.ok next, s')) :
    h.advance c (.within area stage, s) = (next, s') := by
  rw [advance, hrun]

/-- Work in an area goes on there until the area is given up. -/
theorem area?_of_work {stage : Stage} {next : Progress}
    (hrun : (h.work c area stage).runOn s = (.ok next, s')) : next.area? = some area := by
  cases stage with
  | opened =>
      obtain ⟨options, s₁, -, hret⟩ := runOn_bind_eq_ok.mp hrun
      cases hret
      rfl
  | written options =>
      rw [runOn_work_written] at hrun
      rcases htool : (h.tool.process options .empty).runOn s with ⟨⟨queue, _ | f⟩, s₁⟩
      · rw [htool] at hrun
        cases herrors : queue.hasErrors with
        | true =>
            simp only [herrors, if_true] at hrun
            cases hrun
            rfl
        | false =>
            simp only [herrors, Bool.false_eq_true, if_false] at hrun
            cases hrun
            rfl
      · rw [htool] at hrun
        cases hrun
  | compiled queue =>
      obtain ⟨path, s₁, -, hret⟩ := runOn_bind_eq_ok.mp hrun
      cases hret
      rfl
  | staged queue =>
      obtain ⟨entry, s₁, -, hret⟩ := runOn_bind_eq_ok.mp hrun
      cases hret
      rfl
  | ready queue entry =>
      obtain ⟨result, s₁, -, hret⟩ := runOn_bind_eq_ok.mp hrun
      cases hret
      rfl

/-- After a step a case has the area that it had, or the one that it has just made. -/
theorem area?_advance {p : Progress} (hp : (h.advance c (p, s)).1.area? = some area) :
    p.area? = some area ∨ p = .waiting ∧ (h.makeArea.runOn s).1 = .ok area := by
  cases p with
  | waiting =>
      rw [advance] at hp
      rcases hrun : h.makeArea.runOn s with ⟨f | made, s'⟩
      · rw [hrun] at hp
        cases hp
      · rw [hrun] at hp
        cases hp
        exact .inr ⟨rfl, rfl⟩
  | within made stage =>
      rcases hrun : (h.work c made stage).runOn s with ⟨f | next, s'⟩
      · rw [advance_of_error hrun] at hp
        exact .inl hp
      · rw [advance_of_ok hrun, area?_of_work hrun] at hp
        exact .inl hp
  | leaving made r => cases hp
  | ended r => cases hp

theorem advance_ne_waiting (p : Progress) (s : Host) : (h.advance c (p, s)).1 ≠ .waiting := by
  cases p with
  | waiting =>
      rw [advance]
      rcases h.makeArea.runOn s with ⟨f | made, s'⟩ <;> exact Progress.noConfusion
  | within area stage =>
      rcases hrun : (h.work c area stage).runOn s with ⟨f | next, s'⟩
      · rw [advance_of_error hrun]
        exact Progress.noConfusion
      · rw [advance_of_ok hrun]
        rintro rfl
        cases area?_of_work hrun
  | leaving area r => exact Progress.noConfusion
  | ended r => exact Progress.noConfusion

theorem steps_of_makeArea (hrun : h.makeArea.runOn s = (.ok area, s')) :
    h.steps c s 1 = (.within area .opened, s') := by
  rw [steps_succ, steps_zero, advance, hrun]

theorem Prepared.steps (hprepared : h.Prepared c s area options atTool) :
    h.steps c s 2 = (.within area (.written options), atTool) := by
  obtain ⟨s₁, harea, hgrammar⟩ := hprepared
  rw [steps_succ, steps_of_makeArea harea]
  exact advance_of_ok (runOn_bind_of_ok hgrammar)

theorem Compiled.steps (hcompiled : h.Compiled c s area options atTool queue s')
    (herrors : queue.hasErrors = false) :
    h.steps c s 3 = (.within area (.compiled queue), s') := by
  obtain ⟨hprepared, s₁, htool, rfl⟩ := hcompiled
  rw [steps_succ, hprepared.steps]
  refine advance_of_ok ?_
  rw [runOn_work_written, htool]
  simp only [herrors, Bool.false_eq_true, if_false]

theorem Staged.steps (hstaged : h.Staged c s area options atTool queue s') :
    h.steps c s 4 = (.within area (.staged queue), s') := by
  obtain ⟨herrors, s₁, path, hcompiled, hinput⟩ := hstaged
  rw [steps_succ, hcompiled.steps herrors]
  exact advance_of_ok (runOn_bind_of_ok hinput)

theorem Ready.steps {driver : String} {entry : Path}
    (hready : h.Ready c s area options atTool queue driver entry s') :
    h.steps c s 5 = (.within area (.ready queue entry), s') := by
  obtain ⟨s₁, hstaged, hdriver⟩ := hready.writeDriver
  rw [steps_succ, hstaged.steps]
  exact advance_of_ok (runOn_bind_of_ok hdriver)

/-! ## The end -/

theorem steps_of_ended {n m : Nat} (hn : h.steps c s n = (.ended r, s')) (hle : n ≤ m) :
    h.steps c s m = (.ended r, s') := by
  induction m, hle using Nat.le_induction with
  | base => exact hn
  | succ m _ ih => rw [steps_succ, ih, advance]

theorem steps_of_leaving {n : Nat} (hn : h.steps c s n = (.leaving area r, s')) (hle : n ≤ 6) :
    h.steps c s 7 = (.ended r, area.closed s') := by
  refine steps_of_ended (n := n + 1) ?_ (by omega)
  rw [steps_succ, hn, advance, StagingArea.runOn_close]

/-- A case that fails in a step gives up its area in the next. -/
theorem steps_of_error {n : Nat} {stage : Stage} {f : Failure} {s₁ : Host}
    (hn : h.steps c s n = (.within area stage, s₁))
    (hrun : (h.work c area stage).runOn s₁ = (.error f, s')) (hle : n ≤ 5) :
    h.steps c s 7 = (.ended (.error f), area.closed s') := by
  refine steps_of_leaving (n := n + 1) ?_ (by omega)
  rw [steps_succ, hn, advance_of_error hrun]

theorem CaseRun.steps {b b' : Bench} (hrun : h.CaseRun c b r b') :
    h.steps c b.host 7 = (.ended r, b'.host) := by
  cases hrun with
  | noArea harea =>
      refine steps_of_ended (n := 1) ?_ (by omega)
      rw [steps_succ, steps_zero, advance, harea]
  | noGrammar harea hgrammar =>
      exact steps_of_error (steps_of_makeArea harea) (runOn_bind_of_error hgrammar) (by omega)
  | toolFailed hprepared htool =>
      exact steps_of_error hprepared.steps (by rw [runOn_work_written, htool]) (by omega)
  | notCompiled hcompiled herrors =>
      obtain ⟨hprepared, s₁, htool, rfl⟩ := hcompiled
      refine steps_of_leaving (n := 3) ?_ (by omega)
      rw [steps_succ, hprepared.steps]
      refine advance_of_ok ?_
      rw [runOn_work_written, htool]
      simp only [herrors, if_true]
  | noInput hcompiled herrors hinput =>
      exact steps_of_error (hcompiled.steps herrors) (runOn_bind_of_error hinput) (by omega)
  | notRendered hstaged hrender =>
      refine steps_of_error hstaged.steps (runOn_bind_of_error ?_) (by omega)
      rw [StagingArea.runOn_writeDriver, hrender]
  | noDriver hstaged hrender hdriver =>
      refine steps_of_error hstaged.steps (runOn_bind_of_error ?_) (by omega)
      rw [StagingArea.runOn_writeDriver, hrender]
      exact hdriver
  | notRun hready hexecute =>
      exact steps_of_error hready.steps (by rw [runOn_work_ready, hexecute]) (by omega)
  | done hready hexecute =>
      refine steps_of_leaving (n := 6) ?_ (by omega)
      rw [steps_succ, hready.steps]
      refine advance_of_ok ?_
      rw [runOn_work_ready, hexecute]

/-- **Seven steps in a row are the run of the case.** -/
theorem steps_exec (h : Harness) (c : Case) (b : Bench) :
    h.steps c b.host 7 = (.ended ((h.exec c).runOn b).1, ((h.exec c).runOn b).2.host) :=
  (h.exec_caseRun c b).steps

theorem steps_of_le {n : Nat} (hle : 7 ≤ n) (b : Bench) :
    (h.steps c b.host n).1 = .ended ((h.exec c).runOn b).1 := by
  rw [steps_of_ended (steps_exec h c b) hle]

/-- When a case has ended, it has ended as its code does. -/
theorem eq_of_steps {n : Nat} {b : Bench} (hn : (h.steps c b.host n).1 = .ended r) :
    r = ((h.exec c).runOn b).1 := by
  have hlate := steps_of_ended (Prod.ext hn rfl) (le_max_left n 7)
  have hexec := steps_of_ended (steps_exec h c b) (le_max_right n 7)
  rw [hlate] at hexec
  exact Progress.ended.inj (congrArg Prod.fst hexec)

end Harness

end GrammarBench
