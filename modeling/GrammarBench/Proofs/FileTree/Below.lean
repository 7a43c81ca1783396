import GrammarBench.Proofs.FileTree.Deep

/-!
# Names below a directory

Names of entries that are joined to the path of a directory, one after another, lead down from it to
what stands there (`walk_names`), and the same file is meant however the path of the directory is
written: what is found is found at these names (`locate_foldl_join_eq_ok`). If nothing stands there,
it is said to be missing, and not that the path is bad, as long as no limit of the operating system
is passed (`WithinLimits`).
-/

namespace GrammarBench

/-! ## Paths that are joined from names -/

namespace Path

/-- The names could be those of entries. -/
def AreNames (names : List String) : Prop :=
  ∀ name ∈ names, '/' ∉ name.toList ∧ isIdle name = false ∧ name ≠ ".."

instance (names : List String) : Decidable (AreNames names) :=
  inferInstanceAs (Decidable (∀ name ∈ names, _))

variable {names : List String} {name : String}

theorem AreNames.ne_empty (h : AreNames names) (hmem : name ∈ names) : name ≠ "" := by
  rintro rfl
  exact absurd (h "" hmem).2.1 (by decide)

theorem AreNames.isName (h : AreNames names) (hmem : name ∈ names) :
    FileTree.isName name = true := by
  refine FileTree.isName_iff.mpr ⟨?_, (h name hmem).2.2⟩
  rintro rfl
  exact absurd (h "." hmem).2.1 (by decide)

theorem isAbsolute_foldl_join (root : Path) (h : AreNames names) :
    (names.foldl join root).isAbsolute = root.isAbsolute := by
  induction names generalizing root with
  | nil => rfl
  | cons name rest ih =>
      obtain ⟨hname, hrest⟩ := List.forall_mem_cons.mp h
      rw [List.foldl_cons, ih _ hrest, isAbsolute_join root (isAbsolute_of_no_slash hname.1)]

theorem dirBody_foldl_join (root : Path) (h : AreNames names) :
    (names.foldl join root).dirBody = root.dirBody ++ names := by
  induction names generalizing root with
  | nil => exact (List.append_nil _).symm
  | cons name rest ih =>
      have hne := h.ne_empty List.mem_cons_self
      obtain ⟨hname, hrest⟩ := List.forall_mem_cons.mp h
      rw [List.foldl_cons, ih _ hrest, dirBody_join_name root hname.1 hne, List.append_assoc]
      rfl

/-- Names of entries leave no slash at the end. -/
theorem body_foldl_join (root : Path) (h : AreNames names) (hne : names ≠ []) :
    (names.foldl join root).body = root.dirBody ++ names := by
  obtain ⟨init, name, rfl⟩ := (List.eq_nil_or_concat' names).resolve_left hne
  have hname : '/' ∉ name.toList := (h name (by simp)).1
  rw [List.foldl_concat, body_join_name _ hname,
    dirBody_foldl_join root fun s hs => h s (List.mem_append_left _ hs), List.append_assoc]

end Path

/-! ## Where they lead -/

namespace FileTree

variable {t : FileTree} {cwd dir l : Location} {root : Path} {names : List String}

theorem start_foldl_join (cwd : Location) (root : Path) (h : Path.AreNames names) :
    start cwd (names.foldl Path.join root) = start cwd root := by
  rw [start, Path.isAbsolute_foldl_join root h, start]

theorem follow_names (loc : Location) (h : Path.AreNames names) :
    Location.follow loc names = loc ++ names := by
  have hidle : names.filter (!Path.isIdle ·) = names :=
    List.filter_eq_self.mpr fun name hmem => by simp [(h name hmem).2.1]
  rw [Location.follow_eq_append fun hmem => (h _ hmem).2.2 rfl, hidle]

/-- What is found below a directory is found at the names that lead there. -/
theorem locate_foldl_join_eq_ok (hroot : t.locate cwd root = .ok dir) (hnames : Path.AreNames names)
    (h : t.locate cwd (names.foldl Path.join root) = .ok l) : l = dir ++ names := by
  rw [walk_eq_follow (locate_eq_ok.mp h).2, ← Path.follow_dirBody, start_foldl_join cwd root hnames,
    Path.dirBody_foldl_join root hnames, Location.follow_append, Path.follow_dirBody,
    ← walk_eq_follow (locate_eq_ok.mp hroot).2, follow_names dir hnames]

theorem step_of_none {name : String} (hdir : t.isDir dir = true) (hnames : Path.AreNames [name])
    (hfits : checkName name = .ok ()) (hnone : t.node? (dir ++ [name]) = none) :
    t.step dir name = .error .notFound := by
  obtain ⟨-, hidle, hup⟩ := hnames name (List.mem_singleton_self name)
  have hup' : (name == "..") = false := by simpa using hup
  rw [step, enter_of_isDir hdir, ok_bind, hidle, if_neg Bool.false_ne_true, hup',
    if_neg Bool.false_ne_true, hfits, ok_bind, hnone]
  rfl

section Below

variable (hdir : t.isDir dir = true) (hnames : Path.AreNames names)

include hdir hnames

/-- Below a directory it makes no difference how one got there. -/
theorem locate_foldl_join (hroot : t.locate cwd root = .ok dir)
    (htext : checkText (names.foldl Path.join root) = .ok ()) :
    t.locate cwd (names.foldl Path.join root) = t.walk dir names := by
  by_cases hne : names = []
  · subst hne
    exact hroot
  · have hwalk := (walk_dirBody hdir).mpr (locate_eq_ok.mp hroot).2
    rw [locate, htext, ok_bind, start_foldl_join cwd root hnames,
      Path.body_foldl_join root hnames hne, walk_append, hwalk, ok_bind]

/-- Names lead to the entry that stands there, or else it is said to be missing. -/
theorem walk_names (hs : t.Sound) (hfits : ∀ name ∈ names, checkName name = .ok ()) :
    (t.node? (dir ++ names)).isSome = true ∧ t.walk dir names = .ok (dir ++ names)
      ∨ t.node? (dir ++ names) = none
        ∧ (t.walk dir names = .error .notFound ∨ t.walk dir names = .error .notDirectory) := by
  rcases List.eq_nil_or_concat' names with rfl | ⟨init, name, rfl⟩
  · rw [List.append_nil]
    exact .inl ⟨isSome_of_isDir hdir, rfl⟩
  · have hname : name ∈ init ++ [name] := by simp
    have hinit : Path.AreNames init := fun s hmem => hnames s (List.mem_append_left _ hmem)
    -- What a way along the names before the last one ends in decides what the last one does.
    have hends := ends_walk hs hdir (fun hmem => (hinit _ hmem).2.2 rfl)
      fun s hmem => hfits s (List.mem_append_left _ hmem)
    have hwalk : t.walk dir (init ++ [name])
        = (t.walk dir init >>= t.enter) >>= fun m => t.step m name := by
      rw [walk_append, bind_assoc]
      refine congrArg _ (funext fun m => ?_)
      rw [← step_eq_bind]
      simp [walk]
    rw [follow_names dir hinit] at hends
    rw [hwalk, ← List.append_assoc]
    generalize t.walk dir init >>= t.enter = r at hends
    cases hends with
    | dir habove =>
        rw [ok_bind]
        cases hnode : t.node? (dir ++ init ++ [name]) with
        | some node =>
            exact .inl ⟨rfl, (step_name_eq_ok (hnames.ne_empty hname) (hnames.isName hname)).mpr
              ⟨habove, hfits name hname, by rw [hnode]; rfl, rfl⟩⟩
        | none =>
            have hlast : Path.AreNames [name] := fun s hs => hnames s (List.mem_append_right _ hs)
            exact .inr ⟨rfl, .inl (step_of_none habove hlast (hfits name hname) hnode)⟩
    | file hfile =>
        refine .inr ⟨?_, .inr rfl⟩
        by_contra hsome
        exact hs.not_fileOn (hs _ name (Option.isSome_iff_ne_none.mpr hsome)) hfile
    | missing hnone hno => exact .inr ⟨(hs.none_below name hnone hno).1, .inl rfl⟩

end Below

/-- The path is that of the directory at the location. -/
structure DirAt (t : FileTree) (cwd : Location) (root : Path) (dir : Location) : Prop where
  locate : t.locate cwd root = .ok dir
  isDir : t.isDir dir = true

/-- No limit of the operating system stands against the names when they are joined to the path. -/
structure WithinLimits (root : Path) (names : List String) : Prop where
  text : checkText (names.foldl Path.join root) = .ok ()
  names : ∀ name ∈ names, checkName name = .ok ()

end FileTree

end GrammarBench
