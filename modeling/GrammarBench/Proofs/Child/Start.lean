import GrammarBench.Proofs.Child.Interpreter
import GrammarBench.Proofs.Staging.Operations
import GrammarBench.Proofs.Text.Pieces

/-!
# The start of a driver

What the interpreter is asked for, and when. A module path is split where its separator stands, and
directories that are joined to one come back in their order (`splitPaths_of_joinPaths`); so a driver
finds the runtime and then its area, and nothing else, whenever the two can be joined.

A run starts one program at most, and only with its input in place: where the input cannot be staged
or the module path cannot be made, the run is the same whatever the programs of the host do, and
where there is a command, it depends on them only in what they do with that command
(`Interpreter.execute_contract`).
-/

namespace GrammarBench

open Text

/-! ## Module paths -/

/-- The directories of a module path, as an interpreter finds them. -/
def splitPaths (value : String) : List Path :=
  (pieces (· == pathSeparator) value.toList).map String.ofList

theorem splitPaths_intercalate {dirs : List Path} (hne : dirs ≠ [])
    (h : ∀ dir ∈ dirs, pathSeparator ∉ dir.toList) :
    splitPaths (":".intercalate dirs) = dirs := by
  have hwords : ∀ word ∈ dirs.map String.toList, pathSeparator ∉ word := by
    simpa using h
  have hpieces := pieces_intercalate (by simpa using hne) hwords
  rw [splitPaths, String.toList_intercalate]
  change (pieces _ ([pathSeparator].intercalate _)).map _ = dirs
  rw [hpieces]
  simp

theorem joinPaths_eq_ok {dirs : List Path} {value : String} :
    joinPaths dirs = .ok value ↔
      (∀ dir ∈ dirs, pathSeparator ∉ dir.toList) ∧ value = ":".intercalate dirs := by
  unfold joinPaths
  split
  · rename_i hany
    obtain ⟨dir, hmem, hmark⟩ := List.any_eq_true.mp hany
    have hmark := List.contains_iff_mem.mp hmark
    exact ⟨nofun, fun h => absurd hmark (h.1 dir hmem)⟩
  · rename_i hany
    have hno : ∀ dir ∈ dirs, pathSeparator ∉ dir.toList := fun dir hmem hmark =>
      hany (List.any_eq_true.mpr ⟨dir, hmem, List.contains_iff_mem.mpr hmark⟩)
    exact ⟨fun h => ⟨hno, (Except.ok.inj h).symm⟩, fun h => by rw [h.2]⟩

/-- **Directories that are joined to a module path are found in it**, in their order and without any
other. -/
theorem splitPaths_of_joinPaths {dirs : List Path} {value : String} (hne : dirs ≠ [])
    (h : joinPaths dirs = .ok value) : splitPaths value = dirs := by
  obtain ⟨hno, rfl⟩ := joinPaths_eq_ok.mp h
  exact splitPaths_intercalate hne hno

/-! An empty directory is one of them. -/

example : (joinPaths ["", "/a"]).toOption.map splitPaths = some ["", "/a"] := by decide +kernel

/-- The failure where a directory cannot stand in a module path. -/
def unjoinable : Failure :=
  .invalidConfig "cannot build NODE_PATH: path segment contains separator `:`"

theorem joinPaths_eq_error {dirs : List Path} (h : ∃ dir ∈ dirs, pathSeparator ∈ dir.toList) :
    joinPaths dirs = .error unjoinable := by
  obtain ⟨dir, hmem, hmark⟩ := h
  have hany : dirs.any (·.toList.contains pathSeparator) = true :=
    List.any_eq_true.mpr ⟨dir, hmem, List.contains_iff_mem.mpr hmark⟩
  rw [joinPaths, if_pos hany]
  rfl

/-! ## The command of a driver -/

namespace Interpreter

variable {i : Interpreter} {area : StagingArea} {entry : Path} {input : String} {s s₁ : Host}

/-- The two places of modules can stand in one module path. -/
def Joinable (i : Interpreter) (area : StagingArea) : Prop :=
  pathSeparator ∉ i.runtime.toList ∧ pathSeparator ∉ area.path.toList

/-- The command by which a driver is started. -/
structure StartsDriver (i : Interpreter) (area : StagingArea) (entry : Path) (command : Command) :
    Prop where
  program : command.program = i.program
  arguments : command.arguments = [entry, area.inputPath]
  /-- Modules are found in the runtime, then in the area, and nowhere else. -/
  modules : ∃ value, command.environment = [(modulePathVariable, value)]
    ∧ splitPaths value = [i.runtime, area.path]
  directory : command.directory = some area.path
  stdin : command.stdin = []

theorem joinable_iff : i.Joinable area ↔ ∀ dir ∈ [i.runtime, area.path],
    pathSeparator ∉ dir.toList := by
  simp [Joinable]

theorem command_of_joinable (h : i.Joinable area) (entry : Path) :
    ∃ command, i.command area entry = .ok command ∧ i.StartsDriver area entry command := by
  have hjoin := joinPaths_eq_ok.mpr ⟨joinable_iff.mp h, rfl⟩
  have hcommand : i.command area entry = .ok {
      program := i.program
      arguments := [entry, area.inputPath]
      environment := [(modulePathVariable, ":".intercalate [i.runtime, area.path])]
      directory := some area.path } := by
    rw [command, modulePath, hjoin]
    rfl
  exact ⟨_, hcommand, rfl, rfl,
    ⟨_, rfl, splitPaths_of_joinPaths (List.cons_ne_nil _ _) hjoin⟩, rfl, rfl⟩

theorem command_of_not_joinable (h : ¬i.Joinable area) (entry : Path) :
    i.command area entry = .error unjoinable := by
  rw [joinable_iff] at h
  push Not at h
  rw [command, modulePath, joinPaths_eq_error h]
  rfl

/-! ## Runs of a driver -/

/-- The input was staged: the area has it where the driver is told to look for it. -/
def Stages (area : StagingArea) (input : String) (s s₁ : Host) : Prop :=
  (area.stageInput input).runOn s = (.ok area.inputPath, s₁)

theorem exists_stages {dir : Location} (hs : s.tree.Sound) (hstands : area.StandsAt s dir)
    (hfits : Path.FitsBelow area.path inputFile)
    (hno : s.tree.node? (dir ++ [inputFile]) ≠ some .dir) (input : String) :
    ∃ s₁, Stages area input s s₁ ∧ ∀ names, s₁.tree.node? (dir ++ names)
      = if names = [inputFile] then some (.file (utf8 input)) else s.tree.node? (dir ++ names) := by
  have hordinary : Path.IsOrdinary inputFile :=
    (Path.isOrdinary_intercalate (List.cons_ne_nil inputFile []) (by decide)).1
  have hnames : Path.names inputFile = [inputFile] := by decide
  have hshows : s.tree.Shows dir fun names => s.tree.node? (dir ++ names) := fun _ => rfl
  have hroot := FileTree.shown_root hstands.dir hshows
  -- the input is the one file that is put into the area, whatever the area has
  have hputs := StagingArea.puts_writeFile hs hstands hshows hordinary hfits input
  rw [hnames] at hputs
  generalize hrun : (area.writeFile inputFile input).runOn s = r at hputs
  cases hputs with
  | done hfree htree =>
      refine ⟨_, hrun, fun names => ?_⟩
      rw [htree.shows, Contents.hold_singleton hroot]
  | refused f hrefused =>
      rcases hrefused with habove | hclash
      · exact absurd habove (Contents.not_fileAbove_singleton hroot)
      · exact absurd (Contents.clashes_file.mp hclash) hno

theorem exists_stages_or_fault (area : StagingArea) (input : String) (s : Host) :
    (∃ s₁, Stages area input s s₁)
      ∨ ∃ fault s₁, (area.stageInput input).runOn s = (.error (.io fault), s₁) := by
  rcases hrun : (area.stageInput input).runOn s with ⟨f | path, s₁⟩
  · obtain ⟨fault, rfl⟩ := StagingArea.writeFile_eq_error hrun
    exact .inr ⟨fault, s₁, rfl⟩
  · obtain ⟨rfl, -⟩ := StagingArea.writeFile_eq_ok hrun
    exact .inl ⟨s₁, hrun⟩

section Ways

variable {launch : Launcher} {command : Command} {s₂ : Host}

theorem execute_of_run {run : ChildRun} (hstages : Stages area input s s₁)
    (hcommand : i.command area entry = .ok command)
    (hlaunch : (launch command).runOn s₁ = (.ok run, s₂)) :
    (i.execute launch area entry input).runOn s
      = (.ok run.result, s₂.logging run.outputEvents) :=
  execute_eq_ok.mpr ⟨run, s₂, ⟨_, s₁, command, hstages, hcommand, hlaunch⟩, rfl, rfl⟩

theorem execute_of_fault {fault : IoFault} (hstages : Stages area input s s₁)
    (hcommand : i.command area entry = .ok command)
    (hlaunch : (launch command).runOn s₁ = (.error fault, s₂)) :
    (i.execute launch area entry input).runOn s = (.error (.spawn i.program fault),
      s₂.logging [⟨.error, "can't exec recognizer: " ++ fault.message, []⟩]) := by
  rw [runOn_execute, hstages]
  dsimp only
  rw [hcommand]
  dsimp only
  rw [runOn_start, hlaunch]

theorem execute_of_not_joinable (hstages : Stages area input s s₁) (hno : ¬i.Joinable area)
    (entry : Path) (launch : Launcher) :
    (i.execute launch area entry input).runOn s = (.error unjoinable, s₁) := by
  rw [runOn_execute, hstages]
  dsimp only
  rw [command_of_not_joinable hno]

theorem execute_of_unstaged {f : Failure} (h : (area.stageInput input).runOn s = (.error f, s₁))
    (i : Interpreter) (entry : Path) (launch : Launcher) :
    (i.execute launch area entry input).runOn s = (.error f, s₁) := by
  rw [runOn_execute, h]

/-- No failure of a driver's run is one of the environment. -/
theorem isSkip_of_execute {f : Failure} {s' : Host}
    (h : (i.execute launch area entry input).runOn s = (.error f, s')) : f.isSkip = false := by
  rcases exists_stages_or_fault area input s with ⟨s₁, hstages⟩ | ⟨fault, s₁, hfault⟩
  · by_cases hjoin : i.Joinable area
    · obtain ⟨command, hcommand, -⟩ := command_of_joinable hjoin entry
      rcases hlaunch : (launch command).runOn s₁ with ⟨fault | run, s₂⟩
      · cases (execute_of_fault hstages hcommand hlaunch).symm.trans h
        rfl
      · cases (execute_of_run hstages hcommand hlaunch).symm.trans h
    · cases (execute_of_not_joinable hstages hjoin entry launch).symm.trans h
      rfl
  · cases (execute_of_unstaged hfault i entry launch).symm.trans h
    rfl

/-- A result is that of a driver that was started. -/
theorem started_of_execute {result : ExecutionResult} {s' : Host}
    (h : (i.execute launch area entry input).runOn s = (.ok result, s')) :
    ∃ s₁ command run s₂, Stages area input s s₁ ∧ i.StartsDriver area entry command
      ∧ (launch command).runOn s₁ = (.ok run, s₂) ∧ result = run.result := by
  obtain ⟨run, s₂, ⟨path, s₁, command, hinput, hcommand, hlaunch⟩, hresult, -⟩ :=
    execute_eq_ok.mp h
  obtain ⟨rfl, -⟩ := StagingArea.writeFile_eq_ok hinput
  -- there was a command, so the two places of modules could be joined
  have hjoin : i.Joinable area := by
    by_contra hno
    rw [command_of_not_joinable hno] at hcommand
    cases hcommand
  obtain ⟨command', hcommand', hdriver⟩ := command_of_joinable hjoin entry
  obtain rfl := Except.ok.inj (hcommand.symm.trans hcommand')
  exact ⟨s₁, command, run, s₂, hinput, hdriver, hlaunch, hresult⟩

end Ways

/-- What is started for a run of a driver. -/
structure ExecuteContract (i : Interpreter) (area : StagingArea) (entry : Path) (input : String)
    (s : Host) : Prop where
  /-- An area that stands takes the input in place of what its file had before, unless that is a
  directory. Nothing else in the area changes. -/
  stages : ∀ dir, s.tree.Sound → area.StandsAt s dir → Path.FitsBelow area.path inputFile →
    s.tree.node? (dir ++ [inputFile]) ≠ some .dir →
    ∃ s₁, Stages area input s s₁
      ∧ ∀ names, s₁.tree.node? (dir ++ names)
        = if names = [inputFile] then some (.file (utf8 input)) else s.tree.node? (dir ++ names)
  staged : ∀ s₁, Stages area input s s₁ →
    s₁.tree.read s₁.cwd area.inputPath = .ok (utf8 input)
  /-- One program is started, once the input is there. -/
  starts : ∀ s₁, Stages area input s s₁ → i.Joinable area →
    ∃ command, i.StartsDriver area entry command
      ∧ (∀ (launch : Launcher) run s₂, (launch command).runOn s₁ = (.ok run, s₂) →
        (i.execute launch area entry input).runOn s
          = (.ok run.result, s₂.logging run.outputEvents))
      ∧ ∀ (launch : Launcher) fault s₂, (launch command).runOn s₁ = (.error fault, s₂) →
        (i.execute launch area entry input).runOn s = (.error (.spawn i.program fault),
          s₂.logging [⟨.error, "can't exec recognizer: " ++ fault.message, []⟩])
  /-- No program is started: the run is the same, whatever programs do. -/
  separator : ∀ s₁, Stages area input s s₁ → ¬i.Joinable area →
    ∀ launch : Launcher, (i.execute launch area entry input).runOn s = (.error unjoinable, s₁)
  unstaged : (¬∃ s₁, Stages area input s s₁) →
    ∃ fault s₁, ∀ launch : Launcher,
      (i.execute launch area entry input).runOn s = (.error (.io fault), s₁)
  /-- Every result is that of a driver that was started. -/
  result : ∀ (launch : Launcher) result s',
    (i.execute launch area entry input).runOn s = (.ok result, s') →
    ∃ s₁ command run s₂, Stages area input s s₁ ∧ i.StartsDriver area entry command
      ∧ (launch command).runOn s₁ = (.ok run, s₂) ∧ result = run.result
  not_skip : ∀ (launch : Launcher) f s',
    (i.execute launch area entry input).runOn s = (.error f, s') → f.isSkip = false

/-- **A driver is started on its own input and with its own modules, or nothing is started.** -/
theorem execute_contract (i : Interpreter) (area : StagingArea) (entry : Path) (input : String)
    (s : Host) : ExecuteContract i area entry input s where
  stages _ hs hstands hfits hno := exists_stages hs hstands hfits hno input
  staged _ hstages := (StagingArea.holds_of_writeFile hstages).read
  starts s₁ hstages hjoin := by
    obtain ⟨command, hcommand, hdriver⟩ := command_of_joinable hjoin entry
    exact ⟨command, hdriver, fun _ _ _ hlaunch => execute_of_run hstages hcommand hlaunch,
      fun _ _ _ hlaunch => execute_of_fault hstages hcommand hlaunch⟩
  separator _ hstages hno launch := execute_of_not_joinable hstages hno entry launch
  unstaged hno := by
    obtain ⟨fault, s₁, hfault⟩ := (exists_stages_or_fault area input s).resolve_left hno
    exact ⟨fault, s₁, execute_of_unstaged hfault i entry⟩
  result _ _ _ hrun := started_of_execute hrun
  not_skip _ _ _ hrun := isSkip_of_execute hrun

end Interpreter

end GrammarBench
