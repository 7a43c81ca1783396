import GrammarBench.Proofs.FileTree.Alike
import GrammarBench.Proofs.Staging.Root

/-!
# Hosts on which areas were made

Runs that share a staging root find the areas of other runs there, or what is left of them. From a
host `base` on, that is all that changes on the hosts that are `Grown` from it: below the root there
may be directories with numbers that were tried since, and what is in them, and everything else is
as it was. So every path that was followed on `base` is followed in the same way (`Grown.keeps`).

An area is made in the same way on two such hosts on which the same numbers were tried
(`create_alike`): it has the same path on both, or there is none for the same reason. The root need
not be there, and it may be that it cannot be made. It is only supposed that trying so once more
makes nothing more (`Settled`), and no area can be made in the end where that fails.
-/

namespace GrammarBench

open StagingArea

variable {base s s' : Host} {root : Path} {loc : Location} {own : String} {keep : Bool}

/-! ## Making an area on two hosts -/

theorem StagingArea.IsAreaName.isName {name : String} (h : IsAreaName name) :
    FileTree.isName name = true := by
  rw [FileTree.isName_iff]
  constructor <;> rintro rfl <;> exact absurd h (by decide)

/-- What comes of making the entry `own` of a root depends on what stands there. -/
theorem Host.IsRoot.makeDir_eq (hroot : s.IsRoot root loc) (hslash : '/' ∉ own.toList)
    (hown : IsAreaName own) :
    s.tree.makeDir s.cwd (Path.join (s.rootPath root) own) =
      FileTree.checkText (Path.join (s.rootPath root) own) >>= fun _ =>
      FileTree.checkName own >>= fun _ =>
        if (s.tree.node? (loc ++ [own])).isSome then .error .alreadyExists
        else .ok (s.tree.put (loc ++ [own]) .dir) := by
  cases htext : FileTree.checkText (Path.join (s.rootPath root) own) with
  | error fault => simp only [FileTree.makeDir, FileTree.target, htext, error_bind]
  | ok =>
      have hparent : s.tree.walk (FileTree.start s.cwd (Path.join (s.rootPath root) own))
          (s.rootPath root).dirBody = .ok loc := by
        rw [Host.start_join_rootPath hslash]
        exact hroot.walk_dirBody
      have htarget := FileTree.target_of_body htext (Path.body_join_name _ hslash) hown.ne_empty
        hparent hroot.dir
      rw [FileTree.makeDir_of_target htarget, hown.isName, ok_bind]
      rfl

namespace StagingArea

/-- On the two hosts the directory is made, or it is not for the same reason. -/
def MakesAlike (p : Path) (s s' : Host) : Prop :=
  (∃ fault, s.tree.makeDir s.cwd p = .error fault ∧ s'.tree.makeDir s'.cwd p = .error fault) ∨
    ∃ tree tree', s.tree.makeDir s.cwd p = .ok tree ∧ s'.tree.makeDir s'.cwd p = .ok tree'

/-- The roots of the two hosts are alike in what making an area asks of them. -/
structure AlikeRoots (root : Path) (s s' : Host) : Prop where
  rootPath : s'.rootPath root = s.rootPath root
  serial : s'.serial = s.serial
  /-- Nothing is made for the root. -/
  made : ∃ r, s.tree.makeDirs s.cwd root = (r, s.tree) ∧ s'.tree.makeDirs s'.cwd root = (r, s'.tree)
  next : ∀ n, s.serial ≤ n → MakesAlike (Path.join (s.rootPath root) (dirName n)) s s'

/-- On the two hosts the same numbers are tried, and either a directory is made in `p` with one of
them or the search fails for the same reason. -/
def EndsAlike {α : Type} (p : Path) (action : HostAction α) (made : Path → α) (s s' : Host) :
    Prop :=
  (∃ f serial, s.serial ≤ serial
      ∧ action.runOn s = (.error f, { s with serial })
      ∧ action.runOn s' = (.error f, { s' with serial })) ∨
    ∃ n tree tree', s.serial ≤ n
      ∧ s.tree.makeDir s.cwd (Path.join p (dirName n)) = .ok tree
      ∧ s'.tree.makeDir s'.cwd (Path.join p (dirName n)) = .ok tree'
      ∧ action.runOn s = (.ok (made (Path.join p (dirName n))), { s with tree, serial := n + 1 })
      ∧ action.runOn s' =
        (.ok (made (Path.join p (dirName n))), { s' with tree := tree', serial := n + 1 })

theorem makeFresh_alike {p : Path} (tries : Nat) (hserial : s'.serial = s.serial)
    (hnext : ∀ n, s.serial ≤ n → MakesAlike (Path.join p (dirName n)) s s') :
    EndsAlike p (makeFresh p tries) (fun path => path) s s' := by
  induction tries generalizing s s' with
  | zero => exact .inl ⟨_, s.serial, le_refl _, runOn_throw _ _, by rw [← hserial]; rfl⟩
  | succ tries ih =>
      have hrun := runOn_makeNext p s
      have hrun' := runOn_makeNext p s'
      rw [hserial] at hrun'
      rw [EndsAlike, makeFresh]
      rcases hnext s.serial (le_refl _) with
        ⟨fault, hfault, hfault'⟩ | ⟨tree, tree', hmade, hmade'⟩
      · rw [hfault] at hrun
        rw [hfault'] at hrun'
        dsimp only at hrun hrun'
        split at hrun
        · -- The name is in use on both hosts.
          rename_i hused
          rw [if_pos hused] at hrun'
          rw [runOn_bind_of_ok hrun, runOn_bind_of_ok hrun']
          have hrest : EndsAlike p (makeFresh p tries) (fun path => path)
              { s with serial := s.serial + 1 } { s' with serial := s.serial + 1 } :=
            ih rfl fun n hn => hnext n (Nat.le_of_succ_le hn)
          rcases hrest with
            ⟨f, serial, hle, hend, hend'⟩ | ⟨n, tree, tree', hle, hmade, hmade', hend, hend'⟩
          · exact .inl ⟨f, serial, Nat.le_of_succ_le hle, hend, hend'⟩
          · exact .inr ⟨n, tree, tree', Nat.le_of_succ_le hle, hmade, hmade', hend, hend'⟩
        · rename_i hother
          rw [if_neg hother] at hrun'
          rw [runOn_bind_of_error hrun, runOn_bind_of_error hrun']
          exact .inl ⟨_, s.serial + 1, Nat.le_succ _, rfl, rfl⟩
      · rw [hmade] at hrun
        rw [hmade'] at hrun'
        rw [runOn_bind_of_ok hrun, runOn_bind_of_ok hrun']
        exact .inr ⟨s.serial, tree, tree', le_refl _, hmade, hmade', rfl, rfl⟩

/-- An area is made in the same way where the roots are alike. -/
theorem AlikeRoots.create (h : AlikeRoots root s s') (keep : Bool) :
    EndsAlike (s.rootPath root) (create root keep) (⟨·, keep⟩) s s' := by
  obtain ⟨r, hmade, hmade'⟩ := h.made
  rw [EndsAlike, runOn_create, runOn_create, hmade, hmade', h.rootPath]
  rcases r with fault | ⟨⟩
  · exact .inl ⟨.io fault, s.serial, le_refl _, rfl, by rw [← h.serial]⟩
  · dsimp only
    rcases makeFresh_alike tryLimit h.serial h.next with
      ⟨f, serial, hle, hend, hend'⟩ | ⟨n, tree, tree', hle, hmade, hmade', hend, hend'⟩
    · exact .inl ⟨f, serial, hle, by rw [hend], by rw [hend']⟩
    · exact .inr ⟨n, tree, tree', hle, hmade, hmade', by rw [hend], by rw [hend']⟩

/-! ## Roots that can hold areas -/

/-- Trying to make the root a second time ends as the first time did, and makes nothing more. -/
def Settled (s : Host) (root : Path) : Prop :=
  (withRoot s root).tree.makeDirs s.cwd root = s.tree.makeDirs s.cwd root

theorem Settled.withRoot (h : Settled s root) :
    withRoot (withRoot s root) root = withRoot s root := by
  have hmade := congrArg Prod.snd h
  simp only [StagingArea.withRoot] at hmade ⊢
  rw [hmade]

/-- So making an area makes the same one, or fails in the same way, once the root has been made. -/
theorem Settled.runOn_create (h : Settled s root) (keep : Bool) :
    (create root keep).runOn (StagingArea.withRoot s root) = (create root keep).runOn s := by
  rw [StagingArea.runOn_create, StagingArea.runOn_create]
  have hmade : (StagingArea.withRoot s root).tree.makeDirs (StagingArea.withRoot s root).cwd root =
      s.tree.makeDirs s.cwd root := h
  have hpath : (StagingArea.withRoot s root).rootPath root = s.rootPath root :=
    Host.rootPath_of_cwd rfl root
  rw [hmade, hpath]
  generalize tryLimit = tries
  rfl

/-- A root that is there in the end is settled. -/
theorem settled_of_made (h : (s.tree.makeDirs s.cwd root).1 = .ok ()) : Settled s root := by
  have hpair : s.tree.makeDirs s.cwd root = (.ok (), (withRoot s root).tree) := Prod.ext h rfl
  rw [Settled, hpair]
  rcases FileTree.isDirAt_of_makeDirs h with rfl | hdir
  · rfl
  · exact FileTree.makeDirs_of_isDirAt hdir

end StagingArea

/-- The root is the directory at `loc`, and nothing is made for it. -/
structure Host.CanHold (s : Host) (root : Path) (loc : Location) : Prop where
  isRoot : s.IsRoot root loc
  there : root = "" ∨ s.tree.isDirAt s.cwd root = true

theorem Host.CanHold.makeDirs (h : s.CanHold root loc) :
    s.tree.makeDirs s.cwd root = (.ok (), s.tree) := by
  rcases h.there with rfl | hdir
  · rfl
  · exact FileTree.makeDirs_of_isDirAt hdir

theorem Host.CanHold.of_keeps (h : s.CanHold root loc) (hcwd : s'.cwd = s.cwd)
    (hk : FileTree.Keeps s.tree s'.tree) : s'.CanHold root loc := by
  refine ⟨h.isRoot.of_keeps hcwd hk, h.there.imp_right fun hdir => ?_⟩
  obtain ⟨l, hloc, hl⟩ := FileTree.isDirAt_iff.mp hdir
  rw [hcwd]
  exact FileTree.isDirAt_iff.mpr ⟨l, FileTree.locate_of_keeps hk hloc, hk.dir l hl⟩

/-- An area is new on each host with the same root, if it is not there. -/
theorem StagingArea.NewIn.of_isRoot {a : StagingArea} (h : NewIn a s root loc own)
    (hpath : s'.rootPath root = s.rootPath root) (hroot : s'.IsRoot root loc)
    (habsent : s'.tree.node? (loc ++ [own]) = none) : NewIn a s' root loc own where
  path := h.path.trans (by rw [hpath])
  isRoot := hroot
  areaName := h.areaName
  noSlash := h.noSlash
  names := by
    have hnames := h.names
    rw [h.path, ← hpath] at hnames ⊢
    exact hroot.names h.noSlash hnames
  absent := habsent

/-- The area is a directory that was made in the root with the number `n`, and nothing was there on
the host `base`. -/
structure StagingArea.MadeIn (a : StagingArea) (base : Host) (root : Path) (loc : Location)
    (n : Nat) : Prop where
  canHold : base.CanHold root loc
  new : NewIn a base root loc (dirName n)

/-! ## Growing -/

/-- The hosts differ in their files, in what was recorded and in the names that were tried, but not
in their settings. -/
structure Host.SameSetting (s s' : Host) : Prop where
  system : s'.system = s.system
  cwd : s'.cwd = s.cwd
  ports : s'.ports = s.ports
  bindFault : s'.bindFault = s.bindFault
  serverEnd : s'.serverEnd = s.serverEnd
  ready : s'.ready = s.ready

theorem Host.SameSetting.refl (s : Host) : s.SameSetting s :=
  ⟨rfl, rfl, rfl, rfl, rfl, rfl⟩

theorem Host.SameSetting.trans {s'' : Host} (h : s.SameSetting s') (h' : s'.SameSetting s'') :
    s.SameSetting s'' :=
  ⟨h'.system.trans h.system, h'.cwd.trans h.cwd, h'.ports.trans h.ports,
    h'.bindFault.trans h.bindFault, h'.serverEnd.trans h.serverEnd, h'.ready.trans h.ready⟩

/-- The place is in a directory of the root that has a number below `serial` and was not there. -/
def Host.InNewArea (base : Host) (root : Path) (serial : Nat) (l : Location) : Prop :=
  ∃ loc n rest, base.CanHold root loc ∧ n < serial
    ∧ base.tree.node? (loc ++ [dirName n]) = none ∧ l = loc ++ dirName n :: rest

/-- From the host `base` to the host `s` nothing has changed but areas that were made in the root,
with numbers that count as tried. -/
structure Host.Grown (base : Host) (root : Path) (s : Host) : Prop where
  setting : base.SameSetting s
  nodes : ∀ l, ¬base.InNewArea root s.serial l → s.tree.node? l = base.tree.node? l
  /-- Where no area can be made, nothing has changed. -/
  barren : (∀ loc, ¬base.CanHold root loc) → s.tree = base.tree

namespace Host.Grown

theorem of_serial (base : Host) (root : Path) (serial : Nat) :
    base.Grown root { base with serial } :=
  ⟨⟨rfl, rfl, rfl, rfl, rfl, rfl⟩, fun _ _ => rfl, fun _ => rfl⟩

theorem rootPath (hs : base.Grown root s) : s.rootPath root = base.rootPath root :=
  Host.rootPath_of_cwd hs.setting.cwd root

/-- A number that was not tried yet is as free as it was. -/
theorem ahead (hs : base.Grown root s) (hhold : base.CanHold root loc) {n : Nat}
    (hn : s.serial ≤ n) (rest : List String) :
    s.tree.node? (loc ++ dirName n :: rest) = base.tree.node? (loc ++ dirName n :: rest) := by
  refine hs.nodes _ ?_
  rintro ⟨loc', n', rest', hhold', hlt, -, heq⟩
  rw [hhold.isRoot.unique hhold'.isRoot, List.append_cancel_left_eq, List.cons.injEq] at heq
  obtain rfl := dirName_injective heq.1
  omega

theorem ahead_entry (hs : base.Grown root s) (hhold : base.CanHold root loc) {n : Nat}
    (hn : s.serial ≤ n) :
    s.tree.node? (loc ++ [dirName n]) = base.tree.node? (loc ++ [dirName n]) :=
  hs.ahead hhold hn []

theorem of_same {serial : Nat} (hs : base.Grown root s) (hle : s.serial ≤ serial) :
    base.Grown root { s with serial } where
  setting := hs.setting.trans ⟨rfl, rfl, rfl, rfl, rfl, rfl⟩
  nodes l hl := hs.nodes l fun ⟨loc, n, rest, hhold, hlt, hnone, heq⟩ =>
    hl ⟨loc, n, rest, hhold, Nat.lt_of_lt_of_le hlt hle, hnone, heq⟩
  barren := hs.barren

/-- A host grows when nothing is changed but what is in an area that was made. -/
theorem of_outside {a : StagingArea} {n : Nat} (hs : base.Grown root s)
    (hmade : a.MadeIn base root loc n) (hset : s.SameSetting s') (hle : s.serial ≤ s'.serial)
    (hn : n < s'.serial) (hout : FileTree.SameOutside (loc ++ [dirName n]) s.tree s'.tree) :
    base.Grown root s' where
  setting := hs.setting.trans hset
  nodes l hl := by
    rw [hout l, (hs.of_same hle).nodes l hl]
    rintro ⟨rest, rfl⟩
    exact hl ⟨loc, n, rest, hmade.canHold, hn, hmade.new.absent, by simp⟩
  barren hbarren := absurd hmade.canHold (hbarren loc)

section Sound

variable (hsound : base.tree.Sound)

include hsound

theorem not_inNewArea {serial : Nat} {l : Location} (hl : (base.tree.node? l).isSome = true) :
    ¬base.InNewArea root serial l := by
  rintro ⟨loc, n, rest, -, -, hnone, rfl⟩
  rw [List.append_cons] at hl
  have hsome := hsound.isSome_of_prefix hl
  rw [hnone] at hsome
  cases hsome

/-- What was there is there. -/
theorem keeps (hs : base.Grown root s) : FileTree.Keeps base.tree s.tree :=
  .of_nodes fun l node hl => by rw [hs.nodes l (not_inNewArea hsound (by rw [hl]; rfl)), hl]

/-- No other root comes to hold areas. -/
theorem canHold_iff (hs : base.Grown root s) : s.CanHold root loc ↔ base.CanHold root loc := by
  have hkept : ∀ loc, base.CanHold root loc → s.CanHold root loc :=
    fun _ hhold => hhold.of_keeps hs.setting.cwd (hs.keeps hsound)
  refine ⟨fun hhold => ?_, hkept loc⟩
  by_cases hbarren : ∀ loc, ¬base.CanHold root loc
  · refine hhold.of_keeps hs.setting.cwd.symm (.of_nodes fun _ _ hnode => ?_)
    rwa [← hs.barren hbarren]
  · push Not at hbarren
    obtain ⟨loc', hhold'⟩ := hbarren
    rwa [hhold.isRoot.unique (hkept loc' hhold').isRoot]

variable (hsettled : withRoot base root = base) (hs : base.Grown root s)
  (hs' : base.Grown root s') (hserial : s'.serial = s.serial)

include hsettled hs hs' hserial

theorem alikeRoots : AlikeRoots root s s' := by
  have hcwd : s'.cwd = s.cwd := hs'.setting.cwd.trans hs.setting.cwd.symm
  have hpath : s'.rootPath root = s.rootPath root := Host.rootPath_of_cwd hcwd root
  by_cases hbarren : ∀ loc, ¬base.CanHold root loc
  · have htree : s'.tree = s.tree := (hs'.barren hbarren).trans (hs.barren hbarren).symm
    have hmade : (s.tree.makeDirs s.cwd root).2 = s.tree := by
      rw [hs.barren hbarren, hs.setting.cwd]
      exact congrArg Host.tree hsettled
    refine ⟨hpath, hserial, ⟨(s.tree.makeDirs s.cwd root).1, Prod.ext rfl hmade, ?_⟩, ?_⟩
    · rw [htree, hcwd]
      exact Prod.ext rfl hmade
    · intro n _
      rw [MakesAlike, htree, hcwd]
      cases s.tree.makeDir s.cwd (Path.join (s.rootPath root) (dirName n)) with
      | error fault => exact .inl ⟨fault, rfl, rfl⟩
      | ok tree => exact .inr ⟨tree, tree, rfl, rfl⟩
  · push Not at hbarren
    obtain ⟨loc, hhold⟩ := hbarren
    have hthere := (hs.canHold_iff hsound).mpr hhold
    have hthere' := (hs'.canHold_iff hsound).mpr hhold
    refine ⟨hpath, hserial, ⟨.ok (), hthere.makeDirs, hthere'.makeDirs⟩, ?_⟩
    intro n hn
    have hnode : s'.tree.node? (loc ++ [dirName n]) = s.tree.node? (loc ++ [dirName n]) :=
      (hs'.ahead_entry hhold (hserial ▸ hn)).trans (hs.ahead_entry hhold hn).symm
    have heq := hthere.isRoot.makeDir_eq (no_slash_dirName n) (isAreaName_dirName n)
    have heq' := hthere'.isRoot.makeDir_eq (no_slash_dirName n) (isAreaName_dirName n)
    rw [hnode, hpath] at heq'
    rw [MakesAlike, heq, heq']
    cases FileTree.checkText (Path.join (s.rootPath root) (dirName n)) with
    | error fault => exact .inl ⟨fault, rfl, rfl⟩
    | ok =>
        cases FileTree.checkName (dirName n) with
        | error fault => exact .inl ⟨fault, rfl, rfl⟩
        | ok =>
            cases (s.tree.node? (loc ++ [dirName n])).isSome with
            | true => exact .inl ⟨.alreadyExists, rfl, rfl⟩
            | false => exact .inr ⟨_, _, rfl, rfl⟩

/-- **An area is made in the same way on hosts that have grown from one**, if the same numbers were
tried on them. -/
theorem create_alike (keep : Bool) :
    (∃ f serial, s.serial ≤ serial
        ∧ (create root keep).runOn s = (.error f, { s with serial })
        ∧ (create root keep).runOn s' = (.error f, { s' with serial })) ∨
      ∃ a loc n, s.serial ≤ n ∧ a.MadeIn base root loc n
        ∧ (create root keep).runOn s =
          (.ok a, { s with tree := s.tree.put (loc ++ [dirName n]) .dir, serial := n + 1 })
        ∧ (create root keep).runOn s' =
          (.ok a, { s' with tree := s'.tree.put (loc ++ [dirName n]) .dir, serial := n + 1 }) := by
  have halike := alikeRoots hsound hsettled hs hs' hserial
  rcases halike.create keep with hfailed | ⟨n, tree, tree', hle, hmade, hmade', hend, hend'⟩
  · exact .inl hfailed
  · obtain ⟨r, hroot, -⟩ := halike.made
    have hmadeRoot : s.tree.makeDirs s.cwd root = (.ok (), s.tree) := by
      rw [runOn_create, hroot] at hend
      rcases r with fault | ⟨⟩
      · cases hend
      · exact hroot
    obtain ⟨loc, hnew, rfl⟩ := newIn_of_makeDir keep (isAreaName_dirName n) (no_slash_dirName n)
      hmade
    rw [← halike.rootPath] at hmade'
    obtain ⟨loc', hnew', rfl⟩ := newIn_of_makeDir keep (isAreaName_dirName n) (no_slash_dirName n)
      hmade'
    have hhold : base.CanHold root loc := by
      refine (hs.canHold_iff hsound).mp ⟨hnew.isRoot, ?_⟩
      have hthere := FileTree.isDirAt_of_makeDirs (congrArg Prod.fst hmadeRoot)
      rwa [hmadeRoot] at hthere
    obtain rfl := hnew'.isRoot.unique ((hs'.canHold_iff hsound).mpr hhold).isRoot
    have habsent : base.tree.node? (loc' ++ [dirName n]) = none :=
      (hs.ahead_entry hhold hle).symm.trans hnew.absent
    exact .inr ⟨_, loc', n, hle, ⟨hhold, hnew.of_isRoot hs.rootPath.symm hhold.isRoot habsent⟩,
      hend, hend'⟩

end Sound

end Host.Grown

end GrammarBench
