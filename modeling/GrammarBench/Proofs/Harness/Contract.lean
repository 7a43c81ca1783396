import GrammarBench.Proofs.Harness.CaseRun

/-!
# The contract of a case

What a caller may rely on when it runs a case, whatever the configuration, the tool and the backend
are: the driver is run at most once, and exactly when all before it went well; it finds its input
and its own text in the area; an outcome holds what the tool and the backend gave; and a failure is
that of the first stage that failed.

All of it is by cases on the rules of `CaseRun`. A rule for a run that stops early does not say that
the case was not ready for its driver, and need not: a case that is ready runs by one of the last
two rules (`CaseRun.calls_of_ready`), and there is only one run.
-/

namespace GrammarBench

def Call.isDriver : Call → Bool
  | .tool .. => false
  | .driver .. => true

namespace Bench

/-- The calls of drivers that `b'` has recorded since `b`. -/
def driverCalls (b b' : Bench) : List Call :=
  (b'.calls.drop b.calls.length).filter Call.isDriver

theorem driverCalls_of_calls_eq {b b' : Bench} {new : List Call}
    (h : b'.calls = b.calls ++ new) : b.driverCalls b' = new.filter Call.isDriver := by
  rw [driverCalls, h, List.drop_left]

end Bench

namespace Harness

/-- The same harness with another way of running drivers. -/
def withExecute (h : Harness) (execute : StagingArea → Path → String → HostAction ExecutionResult) :
    Harness :=
  { h with backend := { h.backend with execute } }

/-- What a run of the case `c` from the bench `b` promises that ends with `r` on the bench `b'`. -/
structure Contract (h : Harness) (c : Case) (b : Bench) (r : Except Failure RunOutcome)
    (b' : Bench) : Prop where
  /-- The stages run in their order up to the first that fails. Its failure is how the case ends,
  and the bench is as that stage left it, but for the end of the area: whenever the conditions of a
  rule hold, the case has run by it, and it has run by one. -/
  stages : ∀ r₁ b₁, h.CaseRun c b r₁ b₁ ↔ r₁ = r ∧ b₁ = b'
  /-- What was recorded before stays. -/
  record : b.calls <+: b'.calls
  at_most_once : (b.driverCalls b').length ≤ 1
  /-- The driver is run when all before it went well, and only then. -/
  once_iff : (b.driverCalls b').length = 1 ↔ ∃ area options atTool queue driver entry atCall,
    h.Ready c b.host area options atTool queue driver entry atCall
  /-- The driver finds the input of the case and its own text. -/
  files : ∀ call ∈ b.driverCalls b', ∃ area options atTool queue driver entry atCall,
    h.Ready c b.host area options atTool queue driver entry atCall
      ∧ call = .driver entry c.input atCall.tree
      ∧ atCall.tree.read atCall.cwd area.inputPath = .ok (Text.utf8 c.input)
      ∧ Driver.render c.spec h.backend.kind = .ok driver
      ∧ atCall.tree.read atCall.cwd entry = .ok (Text.utf8 driver)
  /-- Of what the backend would do elsewhere, nothing matters. -/
  used_once : ∀ execute,
    (∀ area options atTool queue driver entry atCall,
      h.Ready c b.host area options atTool queue driver entry atCall →
      (execute area entry c.input).runOn atCall
        = (h.backend.execute area entry c.input).runOn atCall) →
    ((h.withExecute execute).exec c).runOn b = (r, b')
  /-- An outcome holds the messages of the tool in the order in which they came, and what the
  backend gave, unless one of the messages is an error. -/
  outcome : ∀ o, r = .ok o → ∃ area options atTool queue s,
    h.Compiled c b.host area options atTool queue s
      ∧ o.diagnostics = queue
      ∧ (o.result = none ↔ ∃ d ∈ queue.all, d.severity = .error)
      ∧ ∀ result, o.result = some result → ∃ driver entry atCall s',
        h.Ready c b.host area options atTool queue driver entry atCall
          ∧ (h.backend.execute area entry c.input).runOn atCall = (.ok result, s')

variable {h : Harness} {c : Case} {b b' : Bench} {r : Except Failure RunOutcome}

/-! ## The calls of a run -/

theorem CaseRun.calls_of_ready {area : StagingArea} {options : List String} {atTool : Host}
    {queue : DiagnosticQueue} {driver : String} {entry : Path} {atCall : Host}
    (hrun : h.CaseRun c b r b')
    (hready : h.Ready c b.host area options atTool queue driver entry atCall) :
    b'.calls = b.calls ++ [.tool options atTool.tree, .driver entry c.input atCall.tree] := by
  have hcode := hrun.runOn_eq
  rcases hexec : (h.backend.execute area entry c.input).runOn atCall with ⟨f | result, s⟩
  · rw [(CaseRun.notRun hready hexec).runOn_eq] at hcode
    cases hcode
    rfl
  · rw [(CaseRun.done hready hexec).runOn_eq] at hcode
    cases hcode
    rfl

/-- A run calls a driver only if it was ready for it. -/
theorem CaseRun.calls_cases (hrun : h.CaseRun c b r b') :
    (∃ new, b'.calls = b.calls ++ new ∧ new.filter Call.isDriver = []) ∨
      ∃ area options atTool queue driver entry atCall,
        h.Ready c b.host area options atTool queue driver entry atCall := by
  cases hrun with
  | noArea _ => exact .inl ⟨[], (List.append_nil _).symm, rfl⟩
  | noGrammar _ _ => exact .inl ⟨[], (List.append_nil _).symm, rfl⟩
  | toolFailed _ _ => exact .inl ⟨_, rfl, rfl⟩
  | notCompiled _ _ => exact .inl ⟨_, rfl, rfl⟩
  | noInput _ _ _ => exact .inl ⟨_, rfl, rfl⟩
  | notRendered _ _ => exact .inl ⟨_, rfl, rfl⟩
  | noDriver _ _ _ => exact .inl ⟨_, rfl, rfl⟩
  | notRun hready _ => exact .inr ⟨_, _, _, _, _, _, _, hready⟩
  | done hready _ => exact .inr ⟨_, _, _, _, _, _, _, hready⟩

/-- The drivers that a run calls: none, or the one that it was ready for. -/
theorem CaseRun.driverCalls_cases (hrun : h.CaseRun c b r b') :
    b.driverCalls b' = [] ∨ ∃ area options atTool queue driver entry atCall,
      h.Ready c b.host area options atTool queue driver entry atCall
        ∧ b.driverCalls b' = [.driver entry c.input atCall.tree] := by
  rcases hrun.calls_cases with ⟨new, hcalls, hnone⟩ | ⟨_, _, _, _, _, _, _, hready⟩
  · exact .inl ((Bench.driverCalls_of_calls_eq hcalls).trans hnone)
  · exact .inr ⟨_, _, _, _, _, _, _, hready,
      Bench.driverCalls_of_calls_eq (hrun.calls_of_ready hready)⟩

theorem CaseRun.calls_prefix (hrun : h.CaseRun c b r b') : b.calls <+: b'.calls := by
  rcases hrun.calls_cases with ⟨new, hcalls, -⟩ | ⟨_, _, _, _, _, _, _, hready⟩
  · exact ⟨new, hcalls.symm⟩
  · exact ⟨_, (hrun.calls_of_ready hready).symm⟩

/-! ## The files of a driver -/

/-- The driver is written after the input is staged and under another name, so both are there. -/
theorem Ready.files {area : StagingArea} {options : List String} {s atTool : Host}
    {queue : DiagnosticQueue} {driver : String} {entry : Path} {atCall : Host}
    (hready : h.Ready c s area options atTool queue driver entry atCall) :
    atCall.tree.read atCall.cwd area.inputPath = .ok (Text.utf8 c.input)
      ∧ atCall.tree.read atCall.cwd entry = .ok (Text.utf8 driver) := by
  obtain ⟨-, s₂, ⟨-, s₁, path, -, hinput⟩, hdriver⟩ := hready
  obtain ⟨hin, hout⟩ := StagingArea.holds_of_stageInput_of_writeFile hinput hdriver
  exact ⟨hin.read, hout.read⟩

/-! ## The backend -/

/-- No stage before the call of the driver looks at how drivers are run. -/
theorem CaseRun.withExecute
    {execute : StagingArea → Path → String → HostAction ExecutionResult}
    (hrun : h.CaseRun c b r b')
    (hsame : ∀ area options atTool queue driver entry atCall,
      h.Ready c b.host area options atTool queue driver entry atCall →
      (execute area entry c.input).runOn atCall
        = (h.backend.execute area entry c.input).runOn atCall) :
    (h.withExecute execute).CaseRun c b r b' := by
  cases hrun with
  | noArea harea => exact .noArea harea
  | noGrammar harea hgrammar => exact .noGrammar harea hgrammar
  | toolFailed hprepared htool => exact .toolFailed hprepared htool
  | notCompiled hcompiled herrors => exact .notCompiled hcompiled herrors
  | noInput hcompiled herrors hinput => exact .noInput hcompiled herrors hinput
  | notRendered hstaged hrender => exact .notRendered hstaged hrender
  | noDriver hstaged hrender hdriver => exact .noDriver hstaged hrender hdriver
  | notRun hready hexec =>
      exact .notRun hready ((hsame _ _ _ _ _ _ _ hready).trans hexec)
  | done hready hexec =>
      exact .done hready ((hsame _ _ _ _ _ _ _ hready).trans hexec)

/-! ## The outcome -/

theorem CaseRun.outcome {o : RunOutcome} (hrun : h.CaseRun c b (.ok o) b') :
    ∃ area options atTool queue s, h.Compiled c b.host area options atTool queue s
      ∧ o.diagnostics = queue
      ∧ (o.result = none ↔ ∃ d ∈ queue.all, d.severity = .error)
      ∧ ∀ result, o.result = some result → ∃ driver entry atCall s',
        h.Ready c b.host area options atTool queue driver entry atCall
          ∧ (h.backend.execute area entry c.input).runOn atCall = (.ok result, s') := by
  cases hrun with
  | notCompiled hcompiled herrors =>
      refine ⟨_, _, _, _, _, hcompiled, rfl, ?_, by simp⟩
      exact iff_of_true rfl (DiagnosticQueue.hasErrors_iff.mp herrors)
  | done hready hexec =>
      have hready' := hready
      obtain ⟨-, s₂, ⟨herrors, s₁, path, hcompiled, -⟩, -⟩ := hready'
      refine ⟨_, _, _, _, _, hcompiled, rfl, ?_, ?_⟩
      · have hclean := mt DiagnosticQueue.hasErrors_iff.mpr (by rw [herrors]; exact Bool.false_ne_true)
        exact iff_of_false (by simp) hclean
      · intro result hresult
        cases hresult
        exact ⟨_, _, _, _, hready, hexec⟩

/-! ## The contract -/

/-- **A case keeps its contract.** The tool and the backend are any functions on the host, so this
holds whatever messages a tool gives, however it ends, and whatever a backend does. -/
theorem exec_contract (h : Harness) (c : Case) (b : Bench) :
    h.Contract c b ((h.exec c).runOn b).1 ((h.exec c).runOn b).2 := by
  have hrun := h.exec_caseRun c b
  refine
    { stages := ?_
      record := hrun.calls_prefix
      at_most_once := ?_
      once_iff := ⟨?_, ?_⟩
      files := ?_
      used_once := fun execute hsame => (hrun.withExecute hsame).runOn_eq
      outcome := ?_ }
  · intro r₁ b₁
    rw [caseRun_iff, Prod.ext_iff, eq_comm, @eq_comm _ b₁]
  · rcases hrun.driverCalls_cases with hnone | ⟨_, _, _, _, _, _, _, -, hone⟩
    · simp [hnone]
    · simp [hone]
  · intro hlength
    rcases hrun.driverCalls_cases with hnone | ⟨_, _, _, _, _, _, _, hready, -⟩
    · simp [hnone] at hlength
    · exact ⟨_, _, _, _, _, _, _, hready⟩
  · rintro ⟨area, options, atTool, queue, driver, entry, atCall, hready⟩
    rw [Bench.driverCalls_of_calls_eq (hrun.calls_of_ready hready)]
    rfl
  · intro call hcall
    rcases hrun.driverCalls_cases with hnone | ⟨_, _, _, _, driver, _, _, hready, hone⟩
    · simp [hnone] at hcall
    · rw [hone, List.mem_singleton] at hcall
      obtain ⟨hin, hout⟩ := hready.files
      exact ⟨_, _, _, _, driver, _, _, hready, hcall, hin, hready.1, hout⟩
  · intro o ho
    rw [ho] at hrun
    exact hrun.outcome

end Harness

end GrammarBench
