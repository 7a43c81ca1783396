import GrammarBench.Proofs.Staging.Confined
import GrammarBench.Proofs.Staging.Root
import Mathlib.Data.Set.Insert

/-!
# The life of an area

An area is made, worked in, and given up. Seen from its root, the areas are those that were there
and the new one as long as it is in use (`InUse`), whatever is done in it by actions that are
confined to it and by programs that leave the areas alone (`LeavesAreas`). When it is given up, the
areas are again those that were there (`InUse.areas_closed`), or it stays as one of them
(`InUse.closed_of_keep`).

All this is told of the host on which the root is there, since making the root may itself add an
area.
-/

namespace GrammarBench.StagingArea

variable {a : StagingArea} {s₁ s s' s'' : Host} {root : Path} {loc : Location} {own : String}

/-- No area is lost between two hosts, and no entry of one. -/
structure AreasKept (root : Path) (s s' : Host) : Prop where
  areas : areas s root ⊆ areas s' root
  entries : ∀ name ∈ StagingArea.areas s root, entries s root name ⊆ entries s' root name

namespace AreasKept

theorem of_keeps (hcwd : s'.cwd = s.cwd) (hk : FileTree.Keeps s.tree s'.tree) :
    AreasKept root s s' where
  areas := by
    rintro name ⟨hname, loc, hroot, hdir⟩
    exact ⟨hname, loc, hroot.of_keeps hcwd hk, hk.dir _ hdir⟩
  entries := by
    rintro name - rest ⟨loc, hroot, hsome⟩
    exact ⟨loc, hroot.of_keeps hcwd hk, hk.entry _ hsome⟩

theorem trans (h : AreasKept root s s') (h' : AreasKept root s' s'') : AreasKept root s s'' where
  areas := h.areas.trans h'.areas
  entries name hname := (h.entries name hname).trans (h'.entries name (h.areas hname))

end AreasKept

theorem keeps_withRoot (s : Host) (root : Path) :
    FileTree.Keeps s.tree (withRoot s root).tree :=
  .of_nodes fun _ _ hnode => FileTree.node?_makeDirs hnode

/-- A program that is run for the area `a` leaves the areas alone: it makes none and removes none,
and takes nothing out of those of other runs. What it does elsewhere, and to the contents of its
own area, is left open. -/
structure LeavesAreas (a : StagingArea) (root : Path) (s s' : Host) : Prop where
  cwd : s'.cwd = s.cwd
  isRoot : ∀ loc, s.IsRoot root loc → s'.IsRoot root loc
  areas : areas s' root = areas s root
  entries : ∀ name ∈ StagingArea.areas s root, Path.join (s.rootPath root) name ≠ a.path →
    entries s root name ⊆ entries s' root name

/-- The areas are told from the files alone. -/
theorem areas_of_same (hcwd : s'.cwd = s.cwd) (htree : s'.tree = s.tree) :
    areas s' root = areas s root := by
  have hkeeps : AreasKept root s s' := .of_keeps hcwd (htree ▸ .of_nodes fun _ _ h => h)
  have hkept : AreasKept root s' s := .of_keeps hcwd.symm (htree ▸ .of_nodes fun _ _ h => h)
  exact hkept.areas.antisymm hkeeps.areas

/-- A program that changes no file leaves the areas alone. -/
theorem LeavesAreas.of_same (hcwd : s'.cwd = s.cwd) (htree : s'.tree = s.tree) :
    a.LeavesAreas root s s' := by
  have hk : FileTree.Keeps s.tree s'.tree := htree ▸ .of_nodes fun _ _ h => h
  exact ⟨hcwd, fun loc hroot => hroot.of_keeps hcwd hk, areas_of_same hcwd htree,
    fun name hname _ => (AreasKept.of_keeps hcwd hk).entries name hname⟩

/-- The area is in use on the host `s`: its directory `own`, which was not there on the host `s₁`,
is there in addition to the areas of `s₁`, and none of these has lost anything. -/
structure InUse (a : StagingArea) (root : Path) (loc : Location) (own : String) (s₁ s : Host) :
    Prop where
  new : NewIn a s₁ root loc own
  cwd : s.cwd = s₁.cwd
  isRoot : s.IsRoot root loc
  areas : areas s root = insert own (areas s₁ root)
  kept : AreasKept root s₁ s

/-! ## Making it -/

theorem not_prefix_of_ne {name : String} (h : name ≠ own) (rest : List String) :
    ¬(loc ++ [own]) <+: loc ++ name :: rest := by
  rw [List.prefix_append_right_inj, List.cons_prefix_cons]
  exact fun heq => h heq.1.symm

theorem NewIn.not_mem_areas (hnew : NewIn a s root loc own) : own ∉ areas s root := by
  rw [mem_areas hnew.isRoot, FileTree.isDir, hnew.absent]
  simp

/-- Work in the directory of an area changes the areas by that one at most. -/
theorem insert_areas_of_steady (hroot : s.IsRoot root loc) (hname : IsAreaName own)
    (hsteady : s.Steady (loc ++ [own]) s') (hdir : s'.tree.isDir (loc ++ [own]) = true) :
    areas s' root = insert own (areas s root) := by
  have hroot' := hroot.of_keeps hsteady.cwd hsteady.tree.toKeeps
  ext name
  rw [Set.mem_insert_iff, mem_areas hroot', mem_areas hroot]
  by_cases hown : name = own
  · subst hown
    simp [hname, hdir]
  · rw [hsteady.tree.outside _ (not_prefix_of_ne hown [])]
    simp [hown]

/-- An area is in use when its directory has been made. -/
theorem NewIn.inUse (hnew : NewIn a s root loc own) (serial : Nat) :
    a.InUse root loc own s { s with tree := s.tree.put (loc ++ [own]) .dir, serial } := by
  have hsteady : s.Steady (loc ++ [own])
      { s with tree := s.tree.put (loc ++ [own]) .dir, serial } :=
    ⟨rfl, .put_dir (List.prefix_refl _) hnew.absent⟩
  refine ⟨hnew, rfl, hnew.isRoot.of_keeps rfl hsteady.tree.toKeeps,
    insert_areas_of_steady hnew.isRoot hnew.areaName hsteady ?_,
    .of_keeps rfl hsteady.tree.toKeeps⟩
  rw [FileTree.isDir, FileTree.node?_put_self (by simp)]
  rfl

/-- An area that was made is in use. -/
theorem inUse_of_create {keep : Bool} (h : (create root keep).runOn s = (.ok a, s')) :
    a.keep = keep ∧ ∃ loc own, a.InUse root loc own (withRoot s root) s' := by
  rcases create_cases root keep s with
    ⟨f, serial, hrun⟩ | ⟨made, loc, own, serial, hkeep, hnew, hrun⟩
  · rw [hrun] at h
    cases h
  · rw [hrun] at h
    cases h
    exact ⟨hkeep, loc, own, hnew.inUse serial⟩

/-- Where no area was made, the root was perhaps, and that is all. -/
theorem areas_of_create_error {keep : Bool} {f : Failure}
    (h : (create root keep).runOn s = (.error f, s')) :
    s'.cwd = s.cwd ∧ FileTree.Keeps s.tree s'.tree
      ∧ areas s' root = areas (withRoot s root) root := by
  rcases create_cases root keep s with
    ⟨f, serial, hrun⟩ | ⟨made, loc, own, serial, hkeep, hnew, hrun⟩
  · rw [hrun] at h
    cases h
    exact ⟨rfl, keeps_withRoot s root, areas_of_same rfl rfl⟩
  · rw [hrun] at h
    cases h

/-! ## Working in it -/

namespace InUse

theorem isDir (huse : a.InUse root loc own s₁ s) : s.tree.isDir (loc ++ [own]) = true := by
  have hmem : own ∈ StagingArea.areas s root := huse.areas ▸ Set.mem_insert own _
  exact ((mem_areas huse.isRoot).mp hmem).2

theorem rootPath (huse : a.InUse root loc own s₁ s) : s.rootPath root = s₁.rootPath root :=
  Host.rootPath_of_cwd huse.cwd root

/-- The area stands where it was made. -/
theorem standsAt (huse : a.InUse root loc own s₁ s) : a.StandsAt s (loc ++ [own]) := by
  have hn := huse.new.names
  rw [huse.new.path, ← huse.rootPath] at hn
  refine ⟨⟨loc, own, ?_, rfl⟩, huse.isDir⟩
  rw [huse.new.path, ← huse.rootPath]
  exact huse.isRoot.names huse.new.noSlash hn

theorem of_steady (huse : a.InUse root loc own s₁ s) (hsteady : s.Steady (loc ++ [own]) s') :
    a.InUse root loc own s₁ s' where
  new := huse.new
  cwd := hsteady.cwd.trans huse.cwd
  isRoot := huse.isRoot.of_keeps hsteady.cwd hsteady.tree.toKeeps
  areas := by
    rw [insert_areas_of_steady huse.isRoot huse.new.areaName hsteady
      (hsteady.tree.dir _ huse.isDir), huse.areas, Set.insert_idem]
  kept := huse.kept.trans (.of_keeps hsteady.cwd hsteady.tree.toKeeps)

theorem logging (huse : a.InUse root loc own s₁ s) (events : List LogEvent) :
    a.InUse root loc own s₁ (s.logging events) :=
  huse.of_steady ⟨rfl, .refl _ _⟩

/-- What the bench does in the area. -/
theorem of_confined {α : Type} {action : HostAction α} {r : Except Failure α}
    (huse : a.InUse root loc own s₁ s) (hconfined : a.Confined (loc ++ [own]) action)
    (hrun : action.runOn s = (r, s')) : a.InUse root loc own s₁ s' := by
  have hsteady := hconfined s huse.standsAt
  rw [hrun] at hsteady
  exact huse.of_steady hsteady

/-- What a program does that leaves the areas alone. -/
theorem of_leavesAreas (huse : a.InUse root loc own s₁ s) (hleaves : a.LeavesAreas root s s') :
    a.InUse root loc own s₁ s' where
  new := huse.new
  cwd := hleaves.cwd.trans huse.cwd
  isRoot := hleaves.isRoot loc huse.isRoot
  areas := hleaves.areas.trans huse.areas
  kept := by
    refine ⟨?_, fun name hname => (huse.kept.entries name hname).trans
      (hleaves.entries name (huse.kept.areas hname) ?_)⟩
    · rw [hleaves.areas]
      exact huse.kept.areas
    · rw [huse.new.path, huse.rootPath]
      intro heq
      have hnames := Path.join_inj hname.1.isAbsolute huse.new.areaName.isAbsolute heq
      exact huse.new.not_mem_areas (hnames ▸ hname)

/-! ## Giving it up -/

/-- An area that is to be kept stays. -/
theorem closed_of_keep (huse : a.InUse root loc own s₁ s) (hkeep : a.keep = true) :
    a.InUse root loc own s₁ (a.closed s) := by
  rw [closed, if_pos hkeep]
  exact huse.logging _

section Remove

variable (huse : a.InUse root loc own s₁ s) (hkeep : a.keep = false)

include huse hkeep

/-- The directory of the area is removed, and that is all. -/
theorem closed_eq : a.closed s = { s with tree := s.tree.remove (loc ++ [own]) } := by
  rw [closed, hkeep, if_neg Bool.false_ne_true, huse.standsAt.locate]

/-- The path to the root was followed before the area was there, so it does not lead through the
area. -/
theorem isRoot_closed : (a.closed s).IsRoot root loc := by
  have hclosed := huse.closed_eq hkeep
  have hstart : ∀ cwd, FileTree.start cwd (s.rootPath root) = [] := by
    intro cwd
    rw [FileTree.start, if_pos (s.isAbsolute_rootPath root)]
  obtain ⟨-, hwalk₁⟩ := FileTree.locate_eq_ok.mp huse.new.isRoot.locate
  obtain ⟨htext, hwalk⟩ := FileTree.locate_eq_ok.mp huse.isRoot.locate
  rw [← huse.rootPath, hstart] at hwalk₁
  rw [hstart] at hwalk
  obtain ⟨hremoved, hloc⟩ := FileTree.walk_remove huse.new.absent (by simp) hwalk₁ hwalk
  refine ⟨?_, ?_⟩
  · rw [Host.rootPath_of_cwd (cwd_closed a s), FileTree.locate_eq_ok, hstart, hclosed]
    exact ⟨htext, hremoved⟩
  · rw [hclosed, FileTree.isDir, FileTree.node?_remove hloc]
    exact huse.isRoot.dir

theorem areas_closed : StagingArea.areas (a.closed s) root = StagingArea.areas s₁ root := by
  have hgone := huse.new.not_mem_areas
  ext name
  rw [mem_areas (huse.isRoot_closed hkeep), huse.closed_eq hkeep]
  by_cases hown : name = own
  · subst hown
    simp [FileTree.isDir, FileTree.node?_remove_self, hgone]
  · have hmem : name ∈ StagingArea.areas s root ↔ name ∈ StagingArea.areas s₁ root := by
      rw [huse.areas, Set.mem_insert_iff]
      simp [hown]
    rw [FileTree.isDir, FileTree.node?_remove (not_prefix_of_ne hown []), ← hmem,
      mem_areas huse.isRoot]
    rfl

theorem kept_closed : AreasKept root s₁ (a.closed s) where
  areas := (huse.areas_closed hkeep).ge
  entries name hname rest hrest := by
    have hother : name ≠ own := fun heq => huse.new.not_mem_areas (heq ▸ hname)
    have hthere := (mem_entries huse.isRoot).mp (huse.kept.entries name hname hrest)
    rw [mem_entries (huse.isRoot_closed hkeep), huse.closed_eq hkeep,
      FileTree.node?_remove (not_prefix_of_ne hother rest)]
    exact hthere

end Remove

end InUse

end GrammarBench.StagingArea
