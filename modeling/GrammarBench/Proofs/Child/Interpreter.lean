import GrammarBench.Child.Interpreter
import GrammarBench.Proofs.Child.Output

/-!
# The run of a driver under the interpreter

A driver has a result when its input is staged, its command can be made, and the command can be
started. The result is what it wrote (`execute_eq_ok`).
-/

namespace GrammarBench.Interpreter

variable {i : Interpreter} {launch : Launcher} {area : StagingArea} {entry : Path} {input : String}

theorem runOn_start (i : Interpreter) (launch : Launcher) (command : Command) (s : Host) :
    (i.start launch command).runOn s =
      match (launch command).runOn s with
      | (.error fault, s') =>
        (.error (.spawn i.program fault),
          s'.logging [⟨.error, "can't exec recognizer: " ++ fault.message, []⟩])
      | (.ok run, s') => (.ok run, s') := by
  unfold start
  rw [runOn_bind, runOn_liftM_state]
  rcases (launch command).runOn s with ⟨fault | run, s'⟩ <;> rfl

theorem runOn_execute (i : Interpreter) (launch : Launcher) (area : StagingArea) (entry : Path)
    (input : String) (s : Host) :
    (i.execute launch area entry input).runOn s =
      match (area.stageInput input).runOn s with
      | (.error f, s') => (.error f, s')
      | (.ok _, s₁) =>
        match i.command area entry with
        | .error f => (.error f, s₁)
        | .ok command =>
          match (i.start launch command).runOn s₁ with
          | (.error f, s') => (.error f, s')
          | (.ok run, s₂) => (.ok run.result, s₂.logging run.outputEvents) := by
  unfold execute
  rw [runOn_bind]
  rcases (area.stageInput input).runOn s with ⟨f | path, s₁⟩
  · rfl
  dsimp only
  rw [runOn_bind, runOn_liftM_except]
  rcases i.command area entry with f | command
  · rfl
  dsimp only
  rw [runOn_bind]
  rcases (i.start launch command).runOn s₁ with ⟨f | run, s₂⟩
  · rfl
  dsimp only
  have hattach : run.attach true true = .ok ⟨run⟩ := rfl
  rw [hattach, runOn_bind, runOn_liftM_except]
  dsimp only
  rw [runOn_bind, ChildRun.runOn_wait]
  rfl

/-- The command of a driver was started and did `run`. -/
def Started (i : Interpreter) (launch : Launcher) (area : StagingArea) (entry : Path)
    (input : String) (s : Host) (run : ChildRun) (s' : Host) : Prop :=
  ∃ path s₁ command, (area.stageInput input).runOn s = (.ok path, s₁)
    ∧ i.command area entry = .ok command ∧ (launch command).runOn s₁ = (.ok run, s')

/-- A driver has a result exactly when it was started; the result is what it wrote. -/
theorem execute_eq_ok {s s' : Host} {result : ExecutionResult} :
    (i.execute launch area entry input).runOn s = (.ok result, s') ↔
      ∃ run s₁, i.Started launch area entry input s run s₁
        ∧ result = run.result ∧ s' = s₁.logging run.outputEvents := by
  rw [runOn_execute]
  constructor
  · intro h
    rcases hinput : (area.stageInput input).runOn s with ⟨f | path, s₁⟩
    · rw [hinput] at h
      cases h
    rw [hinput] at h
    dsimp only at h
    rcases hcommand : i.command area entry with f | command
    · rw [hcommand] at h
      cases h
    rw [hcommand] at h
    dsimp only at h
    rw [runOn_start] at h
    rcases hlaunch : (launch command).runOn s₁ with ⟨fault | run, s₂⟩
    · rw [hlaunch] at h
      cases h
    rw [hlaunch] at h
    obtain ⟨hresult, rfl⟩ := Prod.mk.inj h
    exact ⟨run, s₂, ⟨path, s₁, command, hinput, hcommand, hlaunch⟩, (Except.ok.inj hresult).symm,
      rfl⟩
  · rintro ⟨run, s₂, ⟨path, s₁, command, hinput, hcommand, hlaunch⟩, rfl, rfl⟩
    rw [hinput]
    dsimp only
    rw [hcommand]
    dsimp only
    rw [runOn_start, hlaunch]

end GrammarBench.Interpreter
