import GrammarBench.Proofs.Host
import GrammarBench.Proofs.Path
import GrammarBench.Staging

/-!
# Files of a staging area

The actions on a staging area as functions on the host. A file that is written to an area is there
until a file of the same name is written (`holds_of_writeFile`, `holds_of_writeFile_of_ne`), so a
driver finds the input that was staged before it beside its own text
(`holds_of_stageInput_of_writeFile`). Giving up an area never fails (`runOn_close`).
-/

namespace GrammarBench

namespace StagingArea

variable {a : StagingArea} {s s' : Host} {relative target : Path} {text : String}

/-- A file of the area is written in two steps: directories are made, then the text is put. -/
theorem writeFile_eq_ok
    (h : (a.writeFile relative text).runOn s = (.ok target, s')) :
    target = Path.join a.path relative ∧
      ∃ s₁, (∀ loc node, s.tree.node? loc = some node → s₁.tree.node? loc = some node)
        ∧ s₁.cwd = s.cwd ∧ (Host.writeText target text).runOn s₁ = (.ok (), s') := by
  unfold writeFile at h
  dsimp only at h
  split at h
  · rename_i parent hparent
    obtain ⟨⟨⟩, s₁, hmade, h⟩ := runOn_bind_eq_ok.mp h
    obtain ⟨⟨⟩, s₂, hwrite, hret⟩ := runOn_bind_eq_ok.mp h
    rw [runOn_pure, Prod.mk.injEq, Except.ok.injEq] at hret
    obtain ⟨rfl, rfl⟩ := hret
    exact ⟨rfl, s₁, fun _ _ hnode => Host.node?_of_makeDirs hmade hnode,
      Host.cwd_of_makeDirs hmade, hwrite⟩
  · obtain ⟨⟨⟩, s₂, hwrite, hret⟩ := runOn_bind_eq_ok.mp h
    rw [runOn_pure, Prod.mk.injEq, Except.ok.injEq] at hret
    obtain ⟨rfl, rfl⟩ := hret
    exact ⟨rfl, s, fun _ _ hnode => hnode, rfl, hwrite⟩

theorem writeFile_eq_error {f : Failure}
    (h : (a.writeFile relative text).runOn s = (.error f, s')) : ∃ fault, f = .io fault := by
  have hput : ∀ {s s' : Host}, (do
      Host.writeText (Path.join a.path relative) text
      return Path.join a.path relative : HostAction Path).runOn s = (.error f, s') →
      ∃ fault, f = .io fault := by
    intro s s' h
    rcases runOn_bind_eq_error.mp h with hwrite | ⟨_, _, _, hret⟩
    · exact Host.writeText_eq_error hwrite
    · cases hret
  unfold writeFile at h
  dsimp only at h
  split at h
  · rcases runOn_bind_eq_error.mp h with hmade | ⟨_, _, _, h⟩
    · exact Host.makeDirs_eq_error hmade
    · exact hput h
  · exact hput h

theorem holds_of_writeFile (h : (a.writeFile relative text).runOn s = (.ok target, s')) :
    s'.tree.Holds s'.cwd target (Text.utf8 text) := by
  obtain ⟨-, s₁, -, -, hwrite⟩ := writeFile_eq_ok h
  exact Host.holds_of_writeText hwrite

/-- A file stays where it is when one of another name is written to the area. -/
theorem holds_of_writeFile_of_ne {q : Path} {content : List UInt8}
    (h : (a.writeFile relative text).runOn s = (.ok target, s'))
    (hq : s.tree.Holds s.cwd q content) (hne : q.body.getLast? ≠ target.body.getLast?) :
    s'.tree.Holds s'.cwd q content := by
  obtain ⟨-, s₁, hnodes, hcwd, hwrite⟩ := writeFile_eq_ok h
  obtain ⟨hput, hcwd'⟩ := Host.write_of_writeText hwrite
  rw [hcwd', hcwd]
  exact (hq.of_nodes hnodes).of_write (hcwd ▸ hput) hne

/-- A driver is rendered before anything is touched, and its text is written as it is. -/
theorem runOn_writeDriver (a : StagingArea) (spec : DriverSpec) (kind : BackendKind) (s : Host) :
    (a.writeDriver spec kind).runOn s =
      match Driver.render spec kind with
      | .error f => (.error f, s)
      | .ok driver =>
        (a.writeFile (Driver.Template.select spec kind).fileName driver).runOn s := by
  unfold writeDriver
  rw [runOn_bind, runOn_liftM_except]
  rcases Driver.render spec kind with f | driver <;> rfl

theorem fileName_ne_inputFile (template : Driver.Template) : template.fileName ≠ inputFile := by
  cases template <;> decide

/-- When the driver is written, the input lies where it was staged and the driver where it is to be
run from, each as it was given. -/
theorem holds_of_stageInput_of_writeFile {s₀ : Host} {input driver : String} {path entry : Path}
    {template : Driver.Template} (hinput : (a.stageInput input).runOn s₀ = (.ok path, s))
    (hdriver : (a.writeFile template.fileName driver).runOn s = (.ok entry, s')) :
    s'.tree.Holds s'.cwd a.inputPath (Text.utf8 input)
      ∧ s'.tree.Holds s'.cwd entry (Text.utf8 driver) := by
  obtain ⟨rfl, -⟩ := writeFile_eq_ok hinput
  refine ⟨holds_of_writeFile_of_ne hdriver (holds_of_writeFile hinput) ?_,
    holds_of_writeFile hdriver⟩
  obtain ⟨rfl, -⟩ := writeFile_eq_ok hdriver
  have hname : '/' ∉ template.fileName.toList := by cases template <;> decide
  rw [inputPath, Path.body_join_name a.path (by decide : '/' ∉ inputFile.toList),
    Path.body_join_name a.path hname, List.getLast?_concat, List.getLast?_concat]
  exact fun heq => fileName_ne_inputFile _ (Option.some.inj heq).symm

/-- The path of the output directory. -/
def outputPath (a : StagingArea) : BackendKind → Path
  | .process => a.path
  | .browser => Path.join a.path Driver.pageGrammarDir

theorem outputDir_eq_ok {kind : BackendKind} {dir : Path}
    (h : (a.outputDir kind).runOn s = (.ok dir, s')) : dir = a.outputPath kind := by
  cases kind with
  | process =>
      cases h
      rfl
  | browser =>
      obtain ⟨⟨⟩, s₁, -, hret⟩ := runOn_bind_eq_ok.mp h
      cases hret
      rfl

/-- The host after the use of an area has ended. -/
def closed (a : StagingArea) (s : Host) : Host :=
  if a.keep then s.logging [⟨.info, "Keeping staging area " ++ a.path, []⟩]
  else
    match s.tree.locate s.cwd a.path with
    | .ok loc => { s with tree := s.tree.remove loc }
    | .error _ => s

theorem cwd_closed (a : StagingArea) (s : Host) : (a.closed s).cwd = s.cwd := by
  unfold closed
  split
  · rfl
  · split <;> rfl

/-- Giving up an area never fails. -/
theorem runOn_close (a : StagingArea) (s : Host) : a.close.runOn s = (.ok (), a.closed s) := by
  unfold close closed
  split
  · exact Host.runOn_logInfo s _
  · exact runOn_modify _ s

end StagingArea

end GrammarBench
