import GrammarBench.Proofs.FileTree.Directory
import GrammarBench.Proofs.Compile

/-!
# Work in a staging area

What the bench does between making an area and giving it up stays in the area: it makes no
directory elsewhere and removes none (`confined_outputDir`, `confined_writeGrammar`,
`confined_stageInput`, `confined_writeDriver`). A file may be written elsewhere, since the name of
a grammar can be any path, but a file never takes the place of a directory.

An action is `Confined` to an area when this holds of it on every host where the area stands. Such
actions can be put one behind the other, as an area stands after the first one where it stood
before.
-/

namespace GrammarBench

/-- Between two hosts no entry is lost, and no directory appears or disappears elsewhere than at
`loc` and below. -/
structure Host.Steady (loc : Location) (s s' : Host) : Prop where
  cwd : s'.cwd = s.cwd
  tree : FileTree.Within loc s.tree s'.tree

theorem Host.Steady.refl (loc : Location) (s : Host) : s.Steady loc s :=
  ⟨rfl, .refl loc s.tree⟩

theorem Host.Steady.trans {loc : Location} {s s' s'' : Host} (h : s.Steady loc s')
    (h' : s'.Steady loc s'') : s.Steady loc s'' :=
  ⟨h'.cwd.trans h.cwd, h.tree.trans h'.tree⟩

namespace StagingArea

/-- The area is the directory at `loc`. -/
structure StandsAt (a : StagingArea) (s : Host) (loc : Location) : Prop where
  names : ∃ parent name, s.tree.Names s.cwd a.path parent name ∧ loc = parent ++ [name]
  dir : s.tree.isDir loc = true

variable {a : StagingArea} {s s' : Host} {loc : Location} {α β : Type}

theorem StandsAt.of_steady (h : a.StandsAt s loc) (hsteady : s.Steady loc s') :
    a.StandsAt s' loc := by
  obtain ⟨parent, name, hn, hloc⟩ := h.names
  refine ⟨⟨parent, name, ?_, hloc⟩, hsteady.tree.dir loc h.dir⟩
  rw [hsteady.cwd]
  exact hn.mono hsteady.tree.toKeeps

theorem StandsAt.locate (h : a.StandsAt s loc) : s.tree.locate s.cwd a.path = .ok loc := by
  obtain ⟨parent, name, hn, rfl⟩ := h.names
  refine hn.locate ?_
  rw [beq_iff_eq.mp h.dir]
  rfl

theorem StandsAt.isDirAt (h : a.StandsAt s loc) : s.tree.isDirAt s.cwd a.path = true :=
  FileTree.isDirAt_iff.mpr ⟨loc, h.locate, h.dir⟩

/-- The path of an area ends in a name. -/
theorem StandsAt.last (h : a.StandsAt s loc) :
    ∃ name, a.path.body.getLast? = some name ∧ name ≠ "" ∧ Path.isIdle name = false := by
  obtain ⟨parent, name, hn, -⟩ := h.names
  exact ⟨name, hn.getLast?_body, hn.nonempty, FileTree.isIdle_of_isName hn.nonempty hn.proper⟩

/-- Nothing that the action does is seen outside the area. -/
def Confined (a : StagingArea) (loc : Location) (action : HostAction α) : Prop :=
  ∀ s, a.StandsAt s loc → s.Steady loc (action.runOn s).2

namespace Confined

theorem of_tree_eq {action : HostAction α}
    (h : ∀ s, a.StandsAt s loc →
      (action.runOn s).2.cwd = s.cwd ∧ (action.runOn s).2.tree = s.tree) :
    a.Confined loc action := by
  intro s hs
  obtain ⟨hcwd, htree⟩ := h s hs
  exact ⟨hcwd, htree ▸ .refl loc s.tree⟩

theorem bind {action : HostAction α} {next : α → HostAction β} (h : a.Confined loc action)
    (hnext : ∀ x s s', action.runOn s = (.ok x, s') → a.Confined loc (next x)) :
    a.Confined loc (action >>= next) := by
  intro s hs
  have hfirst := h s hs
  rw [runOn_bind]
  rcases hrun : action.runOn s with ⟨f | x, s'⟩
  · rwa [hrun] at hfirst
  · rw [hrun] at hfirst
    exact hfirst.trans (hnext x s s' hrun s' (hs.of_steady hfirst))

theorem pure (x : α) : a.Confined loc (Pure.pure x : HostAction α) :=
  fun s _ => .refl loc s

theorem writeText (p : Path) (text : String) : a.Confined loc (Host.writeText p text) := by
  intro s _
  rw [Host.runOn_writeText]
  cases hwrite : s.tree.write s.cwd p (Text.utf8 text) with
  | ok tree => exact ⟨rfl, .of_write loc hwrite⟩
  | error fault => exact .refl loc s

/-- The directory of the area is not made again. -/
theorem makeDirs_path : a.Confined loc (Host.makeDirs a.path) :=
  of_tree_eq fun s hs => by
    rw [Host.runOn_makeDirs, FileTree.makeDirs_of_isDirAt hs.isDirAt]
    exact ⟨rfl, rfl⟩

theorem makeDirs_join {name : String} (hslash : '/' ∉ name.toList) (hne : name ≠ "")
    (hproper : FileTree.isName name = true) :
    a.Confined loc (Host.makeDirs (Path.join a.path name)) := by
  intro s hs
  obtain ⟨own, hlast, hfull, -⟩ := hs.last
  have hbody : (Path.join a.path name).body = a.path.body ++ [name] := by
    rw [Path.body_join_name _ hslash, Path.dirBody, hlast, if_neg (by simpa using hfull)]
  obtain ⟨-, hwalk⟩ := FileTree.locate_eq_ok.mp hs.locate
  have hstart : FileTree.start s.cwd (Path.join a.path name) = FileTree.start s.cwd a.path := by
    rw [FileTree.start, FileTree.start, Path.isAbsolute_join _ (Path.isAbsolute_of_no_slash hslash)]
  rw [Host.runOn_makeDirs]
  refine ⟨rfl, ?_⟩
  rcases FileTree.makeDirs_of_parent hbody hne hproper (hstart ▸ hwalk) hs.dir with
    hsame | ⟨hnone, hput⟩
  · rw [hsame]
    exact .refl loc s.tree
  · rw [hput]
    exact .put_dir (List.prefix_append _ _) hnone

end Confined

/-! ## What the bench does in an area -/

theorem confined_writeFile {file : String} (hslash : '/' ∉ file.toList)
    (hfile : Path.isIdle file = false) (text : String) :
    a.Confined loc (a.writeFile file text) := by
  intro s hs
  obtain ⟨own, hlast, -, hown⟩ := hs.last
  have hparent := Path.parent?_join_name hslash hfile hlast hown
  unfold writeFile
  dsimp only
  split
  · rename_i parent heq
    obtain rfl : parent = a.path := Option.some.inj (heq.symm.trans hparent)
    exact Confined.makeDirs_path.bind (fun _ _ _ _ =>
      (Confined.writeText _ _).bind fun _ _ _ _ => .pure _) s hs
  · rename_i hnone
    exact absurd hparent (hnone a.path)

theorem confined_stageInput (input : String) : a.Confined loc (a.stageInput input) := by
  rw [stageInput]
  exact confined_writeFile (by decide) (by decide) input

theorem confined_writeDriver (spec : DriverSpec) (kind : BackendKind) :
    a.Confined loc (a.writeDriver spec kind) := by
  intro s hs
  rw [runOn_writeDriver]
  cases Driver.render spec kind with
  | error f => exact .refl loc s
  | ok driver =>
      have hfile : '/' ∉ (Driver.Template.select spec kind).fileName.toList
          ∧ Path.isIdle (Driver.Template.select spec kind).fileName = false := by
        cases Driver.Template.select spec kind <;> decide
      exact confined_writeFile hfile.1 hfile.2 driver s hs

theorem confined_makeDirs_outputPath (kind : BackendKind) :
    a.Confined loc (Host.makeDirs (a.outputPath kind)) := by
  cases kind with
  | process => exact .makeDirs_path
  | browser => exact .makeDirs_join (by decide) (by decide) (by decide)

theorem confined_outputDir (kind : BackendKind) : a.Confined loc (a.outputDir kind) := by
  cases kind with
  | process => exact .pure _
  | browser => exact (a.confined_makeDirs_outputPath .browser).bind fun _ _ _ _ => .pure _

theorem confined_writeGrammar (r : CompileRequest) (kind : BackendKind) :
    a.Confined loc (r.writeGrammar (a.outputPath kind)) := by
  have hlog : a.Confined loc (Host.logInfo ("dir " ++ a.outputPath kind)) :=
    .of_tree_eq fun _ _ => ⟨rfl, rfl⟩
  exact hlog.bind fun _ _ _ _ =>
    (confined_makeDirs_outputPath kind).bind fun _ _ _ _ => .writeText _ _

end StagingArea

end GrammarBench
