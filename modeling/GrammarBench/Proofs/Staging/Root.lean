import GrammarBench.Proofs.FileTree.Directory
import GrammarBench.Proofs.Staging
import Mathlib.Data.Set.Basic

/-!
# The areas of a staging root

The areas of a staging root are the directories directly below it whose names begin as those of
areas do. Which directory the root is, is told by its path, so an area may appear when a directory
on that path is made: the root itself, if it is missing, is made with all the directories that its
path leads through. `MakesNoArea` says that this adds no area. Making an area then adds one that
was not there (`create_cases`).
-/

namespace GrammarBench

/-- The path that the areas of a root are joined to. -/
def Host.rootPath (s : Host) (root : Path) : Path :=
  if root.isAbsolute then root else Path.join s.cwd.toPath root

/-- The staging root is the directory at `loc`. -/
structure Host.IsRoot (s : Host) (root : Path) (loc : Location) : Prop where
  locate : s.tree.locate s.cwd (s.rootPath root) = .ok loc
  dir : s.tree.isDir loc = true

namespace StagingArea

def IsAreaName (name : String) : Prop :=
  nameStart.toList <+: name.toList

instance (name : String) : Decidable (IsAreaName name) :=
  inferInstanceAs (Decidable (_ <+: _))

/-- The names of the areas directly below a root. -/
def areas (s : Host) (root : Path) : Set String :=
  {name | IsAreaName name ∧ ∃ loc, s.IsRoot root loc ∧ s.tree.isDir (loc ++ [name]) = true}

/-- The entries of an area, by the names that lead to them from there; the area itself is one. -/
def entries (s : Host) (root : Path) (name : String) : Set (List String) :=
  {rest | ∃ loc, s.IsRoot root loc ∧ (s.tree.node? (loc ++ name :: rest)).isSome = true}

/-- The host on which the root has been made, if it was missing. -/
def withRoot (s : Host) (root : Path) : Host :=
  { s with tree := (s.tree.makeDirs s.cwd root).2 }

/-- Making the root makes no area below it. -/
def MakesNoArea (s : Host) (root : Path) : Prop :=
  areas (withRoot s root) root = areas s root

end StagingArea

variable {s : Host} {root : Path} {loc loc' : Location}

theorem Host.IsRoot.unique (h : s.IsRoot root loc) (h' : s.IsRoot root loc') : loc = loc' :=
  Except.ok.inj (h.locate.symm.trans h'.locate)

theorem Host.rootPath_of_cwd {s' : Host} (hcwd : s'.cwd = s.cwd) (root : Path) :
    s'.rootPath root = s.rootPath root := by
  rw [rootPath, rootPath, hcwd]

/-- A root stays where it is in every tree that keeps the directories on the way. -/
theorem Host.IsRoot.of_keeps {s' : Host} (h : s.IsRoot root loc) (hcwd : s'.cwd = s.cwd)
    (hk : FileTree.Keeps s.tree s'.tree) : s'.IsRoot root loc := by
  refine ⟨?_, hk.dir loc h.dir⟩
  rw [Host.rootPath_of_cwd hcwd, hcwd]
  exact FileTree.locate_of_keeps hk h.locate

theorem Host.isAbsolute_rootPath (s : Host) (root : Path) :
    (s.rootPath root).isAbsolute = true := by
  unfold rootPath
  split
  · assumption
  · rename_i hroot
    rw [Path.isAbsolute_join _ (by simpa using hroot)]
    simp [Location.toPath, Path.isAbsolute]

theorem Host.IsRoot.walk_dirBody (h : s.IsRoot root loc) :
    s.tree.walk [] (s.rootPath root).dirBody = .ok loc := by
  obtain ⟨-, hwalk⟩ := FileTree.locate_eq_ok.mp h.locate
  rw [FileTree.start, if_pos (s.isAbsolute_rootPath root)] at hwalk
  exact (FileTree.walk_dirBody h.dir).mpr hwalk

section Entry

variable {own : String} (hslash : '/' ∉ own.toList)

include hslash

theorem Host.start_join_rootPath :
    FileTree.start s.cwd (Path.join (s.rootPath root) own) = [] := by
  rw [FileTree.start, Path.isAbsolute_join _ (Path.isAbsolute_of_no_slash hslash),
    s.isAbsolute_rootPath, if_pos rfl]

/-- Where a path through the root names an entry of a directory, that directory is the root. -/
theorem Host.IsRoot.of_names
    (hn : s.tree.Names s.cwd (Path.join (s.rootPath root) own) loc own) : s.IsRoot root loc := by
  have habs := s.isAbsolute_rootPath root
  obtain ⟨init, hbody, hwalk⟩ := hn.body
  rw [Path.body_join_name _ hslash] at hbody
  obtain ⟨rfl, -⟩ := List.append_inj' hbody rfl
  obtain ⟨rest, hrest⟩ :=
    Path.join_eq_append (s.rootPath root) (Path.isAbsolute_of_no_slash hslash)
  have hfull : s.rootPath root ≠ "" := by
    intro hempty
    rw [hempty] at habs
    cases habs
  refine ⟨FileTree.locate_eq_ok.mpr ⟨?_, ?_⟩, hn.parent_dir⟩
  · exact FileTree.checkText_of_append hfull (hrest ▸ hn.text)
  · rw [Host.start_join_rootPath hslash] at hwalk
    rw [FileTree.start, if_pos habs]
    exact (FileTree.walk_dirBody hn.parent_dir).mp hwalk

/-- A path that named an entry of the root names it wherever the root is that directory. -/
theorem Host.IsRoot.names {s₁ : Host} {l : Location} (h : s.IsRoot root loc)
    (hn : s₁.tree.Names s₁.cwd (Path.join (s.rootPath root) own) l own) :
    s.tree.Names s.cwd (Path.join (s.rootPath root) own) loc own := by
  refine ⟨hn.text, ⟨_, Path.body_join_name _ hslash, ?_⟩, h.dir, hn.nonempty, hn.proper, hn.fits⟩
  rw [Host.start_join_rootPath hslash]
  exact h.walk_dirBody

end Entry

namespace StagingArea

theorem mem_areas (hroot : s.IsRoot root loc) {name : String} :
    name ∈ areas s root ↔ IsAreaName name ∧ s.tree.isDir (loc ++ [name]) = true := by
  refine and_congr_right fun _ => ⟨?_, fun h => ⟨loc, hroot, h⟩⟩
  rintro ⟨loc', hroot', hdir⟩
  rwa [hroot.unique hroot']

theorem mem_entries (hroot : s.IsRoot root loc) {name : String} {rest : List String} :
    rest ∈ entries s root name ↔ (s.tree.node? (loc ++ name :: rest)).isSome = true := by
  refine ⟨?_, fun h => ⟨loc, hroot, h⟩⟩
  rintro ⟨loc', hroot', hsome⟩
  rwa [hroot.unique hroot']

/-- A root that is there is not made, and so no area is. -/
theorem makesNoArea_of_isRoot (habs : root.isAbsolute = true) (hroot : s.IsRoot root loc) :
    MakesNoArea s root := by
  have hpath : s.rootPath root = root := by rw [Host.rootPath, if_pos habs]
  have hthere : s.tree.isDirAt s.cwd root = true :=
    FileTree.isDirAt_iff.mpr ⟨loc, hpath ▸ hroot.locate, hroot.dir⟩
  rw [MakesNoArea, withRoot, FileTree.makeDirs_of_isDirAt hthere]

/-! ## Names of areas -/

/-- The digits of a number as they stand in the name of a staging directory. -/
def serialDigits (serial : Nat) : List Char :=
  List.replicate (6 - (toString serial).length) '0' ++ Nat.toDigits 10 serial

theorem toList_dirName (serial : Nat) :
    (dirName serial).toList = nameStart.toList ++ serialDigits serial := by
  simp [dirName, serialDigits, Nat.toString_eq_repr, Nat.toList_repr]

theorem isDigit_of_mem_serialDigits {serial : Nat} {c : Char} (hc : c ∈ serialDigits serial) :
    c.isDigit = true := by
  rcases List.mem_append.mp hc with hc | hc
  · rw [List.eq_of_mem_replicate hc]
    decide
  · exact Nat.isDigit_of_mem_toDigits (by omega) (by omega) hc

theorem ofDigitChars_serialDigits (serial : Nat) :
    Nat.ofDigitChars 10 (serialDigits serial) 0 = serial := by
  rw [serialDigits, Nat.ofDigitChars_append, Nat.ofDigitChars_replicate_zero, Nat.mul_zero,
    Nat.ofDigitChars_ten_toDigits]

theorem dirName_injective : Function.Injective dirName := by
  intro n m h
  have hdigits : serialDigits n = serialDigits m := by
    have := congrArg String.toList h
    rwa [toList_dirName, toList_dirName, List.append_cancel_left_eq] at this
  rw [← ofDigitChars_serialDigits n, hdigits, ofDigitChars_serialDigits]

theorem isAreaName_dirName (serial : Nat) : IsAreaName (dirName serial) :=
  ⟨serialDigits serial, (toList_dirName serial).symm⟩

theorem no_slash_dirName (serial : Nat) : '/' ∉ (dirName serial).toList := by
  rw [toList_dirName, List.mem_append, not_or]
  exact ⟨by decide, fun hmem => absurd (isDigit_of_mem_serialDigits hmem) (by decide)⟩

section Name

variable {name : String} (h : IsAreaName name)

include h

theorem IsAreaName.isAbsolute : Path.isAbsolute name = false := by
  obtain ⟨rest, hrest⟩ := h
  simp [Path.isAbsolute, ← hrest, nameStart]

theorem IsAreaName.ne_empty : name ≠ "" := by
  rintro rfl
  exact absurd h (by decide)

end Name

/-! ## Making an area -/

/-- A name is tried once, and it counts as tried whatever comes of it. -/
theorem runOn_makeNext (base : Path) (s : Host) :
    (makeNext base).runOn s =
      match s.tree.makeDir s.cwd (Path.join base (dirName s.serial)) with
      | .ok tree =>
        (.ok (some (Path.join base (dirName s.serial))), { s with tree, serial := s.serial + 1 })
      | .error fault =>
        (if fault == .alreadyExists then .ok none
          else .error (.io (.other (fault.message ++ " at path " ++
            Text.quoted (Path.join base (dirName s.serial))))),
          { s with serial := s.serial + 1 }) := by
  unfold makeNext
  rw [runOn_bind, runOn_get]
  dsimp only
  rw [runOn_bind, runOn_set]
  dsimp only
  cases s.tree.makeDir s.cwd (Path.join base (dirName s.serial)) with
  | ok tree => rfl
  | error fault =>
      dsimp only
      split <;> rfl

/-- The directory is made, its name is in use, or the search ends. -/
theorem makeNext_cases (base : Path) (s : Host) :
    (∃ f, (makeNext base).runOn s = (.error f, { s with serial := s.serial + 1 }))
      ∨ (makeNext base).runOn s = (.ok none, { s with serial := s.serial + 1 })
      ∨ ∃ tree, s.tree.makeDir s.cwd (Path.join base (dirName s.serial)) = .ok tree
          ∧ (makeNext base).runOn s =
            (.ok (some (Path.join base (dirName s.serial))),
              { s with tree, serial := s.serial + 1 }) := by
  rw [runOn_makeNext]
  cases s.tree.makeDir s.cwd (Path.join base (dirName s.serial)) with
  | ok tree => exact .inr (.inr ⟨tree, rfl, rfl⟩)
  | error fault =>
      dsimp only
      split
      · exact .inr (.inl rfl)
      · exact .inl ⟨_, rfl⟩

/-- A name that is in use is passed over; what is made is new. -/
theorem makeFresh_cases (base : Path) (tries : Nat) (s : Host) :
    (∃ f serial, (makeFresh base tries).runOn s = (.error f, { s with serial })) ∨
      ∃ serial tree,
        s.tree.makeDir s.cwd (Path.join base (dirName serial)) = .ok tree
          ∧ (makeFresh base tries).runOn s =
            (.ok (Path.join base (dirName serial)), { s with tree, serial := serial + 1 }) := by
  induction tries generalizing s with
  | zero => exact .inl ⟨_, s.serial, runOn_throw _ _⟩
  | succ tries ih =>
      rw [makeFresh]
      rcases makeNext_cases base s with ⟨f, hrun⟩ | hrun | ⟨tree, hmade, hrun⟩
      · exact .inl ⟨f, _, runOn_bind_of_error hrun⟩
      · rw [runOn_bind_of_ok hrun]
        exact ih { s with serial := s.serial + 1 }
      · rw [runOn_bind_of_ok hrun]
        exact .inr ⟨s.serial, tree, hmade, runOn_pure _ _⟩

/-- The area is new on this host: its directory is the entry `own` of the root, and is not there. -/
structure NewIn (a : StagingArea) (s : Host) (root : Path) (loc : Location) (own : String) :
    Prop where
  path : a.path = Path.join (s.rootPath root) own
  isRoot : s.IsRoot root loc
  areaName : IsAreaName own
  noSlash : '/' ∉ own.toList
  names : s.tree.Names s.cwd a.path loc own
  absent : s.tree.node? (loc ++ [own]) = none

/-- A directory that is made in the root is a new area, if it has the name of one. -/
theorem newIn_of_makeDir {own : String} {tree : FileTree} (keep : Bool) (harea : IsAreaName own)
    (hslash : '/' ∉ own.toList)
    (hmade : s.tree.makeDir s.cwd (Path.join (s.rootPath root) own) = .ok tree) :
    ∃ loc, NewIn ⟨Path.join (s.rootPath root) own, keep⟩ s root loc own
      ∧ tree = s.tree.put (loc ++ [own]) .dir := by
  obtain ⟨loc, hn, hnone, htree⟩ := FileTree.Names.of_makeDir hmade
    (Path.body_join_name _ hslash) harea.ne_empty
  exact ⟨loc, ⟨rfl, .of_names hslash hn, harea, hslash, hn, hnone⟩, htree⟩

/-- An area is made in two steps, its root and then a directory of its own. -/
theorem runOn_create (root : Path) (keep : Bool) (s : Host) :
    (create root keep).runOn s =
      match s.tree.makeDirs s.cwd root with
      | (.error fault, tree) => (.error (.io fault), { s with tree })
      | (.ok (), tree) =>
        match (makeFresh (s.rootPath root) tryLimit).runOn { s with tree } with
        | (.ok path, s') => (.ok ⟨path, keep⟩, s')
        | (.error f, s') => (.error f, s') := by
  unfold create
  rw [runOn_bind, Host.runOn_makeDirs]
  rcases s.tree.makeDirs s.cwd root with ⟨fault | ⟨⟩, tree⟩
  · rfl
  · simp only [Except.mapError]
    rw [runOn_bind, runOn_get]
    dsimp only
    rw [runOn_bind, Host.rootPath]
    rcases (makeFresh _ tryLimit).runOn { s with tree } with ⟨f | path, s'⟩ <;> rfl

/-- The directory of an area was not there. If there is no area in the end, the root may have been
made all the same. -/
theorem create_cases (root : Path) (keep : Bool) (s : Host) :
    (∃ f serial, (create root keep).runOn s = (.error f, { withRoot s root with serial })) ∨
      ∃ a loc own serial, a.keep = keep ∧ NewIn a (withRoot s root) root loc own
        ∧ (create root keep).runOn s =
          (.ok a, { withRoot s root with
                    tree := (withRoot s root).tree.put (loc ++ [own]) .dir, serial }) := by
  rw [runOn_create]
  rcases hroot : s.tree.makeDirs s.cwd root with ⟨fault | ⟨⟩, tree⟩
  · exact .inl ⟨.io fault, s.serial, by simp [withRoot, hroot]⟩
  · have hhost : withRoot s root = { s with tree } := by rw [withRoot, hroot]
    rw [hhost]
    dsimp only
    rcases makeFresh_cases (s.rootPath root) tryLimit { s with tree } with
      ⟨f, serial, hrun⟩ | ⟨serial, made, hmade, hrun⟩
    · exact .inl ⟨f, serial, by rw [hrun]⟩
    · obtain ⟨loc, hnew, rfl⟩ := newIn_of_makeDir (s := { s with tree }) keep
        (isAreaName_dirName serial) (no_slash_dirName serial) hmade
      exact .inr ⟨_, loc, _, serial + 1, rfl, hnew, by rw [hrun]; rfl⟩

end StagingArea

end GrammarBench
