import GrammarBench.Proofs.FileTree.Below
import GrammarBench.Web.Site

/-!
# What a site shows

A site answers by the names that a path stands for (`Site.names?`), and these are names of entries:
none is empty, goes up or has a slash in it, however the path is written (`areNames_of_names?`). So
they lead down from the directories of the site and never out of them (`find_eq_file`). Where no
limit of the operating system stands in the way, one directory finds the regular file that is there,
and otherwise nothing (`find_of_fits`); then the next one is asked (`lookUp_of_missing`). What the
system does not even look at in the first is not looked for in the second (`status_of_refused`).

Main statement: a regular file of the first directory is shown, then one of the second, and nothing
else is shown whatever is asked for (`answer_serves`).
-/

namespace GrammarBench

namespace Site

variable {t : FileTree} {cwd loc loc' : Location} {root p file : Path} {path : List Char}
  {names : List String} {content : List UInt8} {dir : ServedDir} {dirs : List ServedDir}

/-! ## Names of paths -/

/-- However a path is written, it stands for names of entries. -/
theorem areNames_of_names? (h : names? path = some names) : Path.AreNames names := by
  unfold names? at h
  split at h
  · cases h
  · rename_i decoded _
    dsimp only at h
    split at h
    · cases h
    · rename_i hup
      cases h
      intro name hmem
      obtain ⟨hsegment, hidle⟩ := List.mem_filter.mp hmem
      have hslash := Path.no_slash_of_mem_splitSegments hsegment List.not_mem_nil
      refine ⟨hslash, by simpa using hidle, ?_⟩
      rintro rfl
      exact hup (by simp [hsegment])

theorem names?_of_isOrdinary (h : decoded? path = some p) (hp : p.IsOrdinary) :
    names? path = some p.names := by
  have hdown : p.segments.contains ".." = false := by simpa using hp.down
  simp only [names?, h, hp.relative, hdown]
  rfl

/-! ## One directory -/

theorem read_of_openFile {name : Path} (h : openFile t cwd file = .file content name) :
    t.read cwd file = .ok content := by
  unfold openFile at h
  split at h
  · cases h
    assumption
  · split at h <;> cases h
  · cases h

/-- What a directory shows is a regular file in it, at the names that the path stands for. -/
theorem find_eq_file (hroot : t.locate cwd root = .ok loc)
    (h : find t cwd ⟨root, false⟩ path = .file content file) :
    ∃ names, names? path = some names ∧ t.node? (loc ++ names) = some (.file content) := by
  unfold find at h
  split at h
  · cases h
  · rename_i names hnames
    refine ⟨names, hnames, ?_⟩
    dsimp only at h
    split at h
    · cases h
    · obtain ⟨l, hl, hnode⟩ := bind_eq_ok.mp (read_of_openFile h)
      obtain rfl := FileTree.locate_foldl_join_eq_ok hroot (areNames_of_names? hnames) hl
      split at hnode
      · rename_i hfile
        cases hnode
        exact hfile
      · cases hnode

/-- Where no limit stands in the way, a directory finds the regular file that is there, and
otherwise nothing at all. -/
theorem find_of_fits (hs : t.Sound) (hroot : t.DirAt cwd root loc)
    (hpath : names? path = some names) (hfits : FileTree.WithinLimits root names) :
    find t cwd ⟨root, false⟩ path =
      match t.node? (loc ++ names) with
      | some (.file content) => .file content (names.foldl Path.join root)
      | _ => .missing := by
  have hnames := areNames_of_names? hpath
  have hlocate := FileTree.locate_foldl_join hroot.isDir hnames hroot.locate hfits.text
  rcases FileTree.walk_names hroot.isDir hnames hs hfits.names with ⟨hsome, hwalk⟩ | ⟨hnone, hwalk⟩
  · rw [hwalk] at hlocate
    obtain ⟨node, hnode⟩ := Option.isSome_iff_exists.mp hsome
    cases node with
    | dir => simp [find, hpath, FileTree.isDirAt, hlocate, FileTree.isDir, hnode]
    | file content =>
        simp [find, hpath, FileTree.isDirAt, hlocate, FileTree.isDir, hnode, openFile,
          FileTree.read, pure, Except.pure]
  · have hfind : ∀ fault, fault = .notFound ∨ fault = .notDirectory →
        t.locate cwd (names.foldl Path.join root) = .error fault →
        find t cwd ⟨root, false⟩ path = .missing := by
      rintro fault hfault hgone
      simp only [find, hpath, FileTree.isDirAt, hgone, openFile, FileTree.read]
      rcases hfault with rfl | rfl <;> rfl
    rw [hnone]
    rcases hwalk with hwalk | hwalk
    · exact hfind _ (.inl rfl) (hlocate.trans hwalk)
    · exact hfind _ (.inr rfl) (hlocate.trans hwalk)

/-- A path that the system does not even look at is a fault of the lookup. -/
theorem find_of_refused {fault : IoFault} (hpath : names? path = some names)
    (htext : FileTree.checkText (names.foldl Path.join root) = .error fault)
    (hfault : fault ≠ .notFound) : find t cwd ⟨root, false⟩ path = .broken := by
  have hgone : t.locate cwd (names.foldl Path.join root) = .error fault := by
    rw [FileTree.locate, htext]
    rfl
  simp only [find, hpath, FileTree.isDirAt, hgone, openFile, FileTree.read]
  unfold FileTree.checkText at htext
  split at htext
  · cases htext
    rfl
  · split at htext
    · cases htext
      rfl
    · split at htext
      · cases htext
        exact absurd rfl hfault
      · cases htext

/-! ## Directories one after another -/

theorem lookUp_of_missing (h : find t cwd dir path = .missing) :
    lookUp t cwd path (dir :: dirs) = lookUp t cwd path dirs := by
  rw [lookUp, h]

theorem lookUp_of_file (h : find t cwd dir path = .file content file) :
    lookUp t cwd path (dir :: dirs) = .file content file := by
  rw [lookUp, h]

/-- A file that is found is found in one of the directories. -/
theorem lookUp_eq_file (h : lookUp t cwd path dirs = .file content file) :
    ∃ dir ∈ dirs, find t cwd dir path = .file content file := by
  induction dirs with
  | nil => cases h
  | cons dir rest ih =>
      rw [lookUp] at h
      split at h
      · obtain ⟨dir', hmem, hfound⟩ := ih h
        exact ⟨dir', List.mem_cons_of_mem _ hmem, hfound⟩
      · exact ⟨dir, List.mem_cons_self, h⟩

/-! ## Answers -/

/-- The answer is a file with all of its content. -/
structure Shows (a : SiteAnswer) (content : List UInt8) : Prop where
  status : a.status = 200
  body : a.body = content
  length : a.length = some content.length

variable {site : Site} {target : String}

theorem answer_of_file (h : lookUp t cwd (pathOf target) site.dirs = .file content file) :
    Shows (answer t cwd site "GET" target) content := by
  have hget : answer t cwd site "GET" target
      = ⟨200, content, some (contentType file), none, some content.length, none⟩ := by
    simp [answer, h]
  rw [hget]
  exact ⟨rfl, rfl, rfl⟩

/-- Nothing but a file is answered with success. -/
theorem file_of_answer (h : (answer t cwd site "GET" target).status = 200) :
    ∃ content file, lookUp t cwd (pathOf target) site.dirs = .file content file := by
  cases hfound : lookUp t cwd (pathOf target) site.dirs with
  | file content file => exact ⟨content, file, rfl⟩
  | directory | missing | broken => simp [answer, hfound, bare] at h

/-- What the system does not look at in the first directory is not looked for in the second. -/
theorem status_of_refused {fault : IoFault} (hpath : names? (pathOf target) = some names)
    (htext : FileTree.checkText (names.foldl Path.join site.primary) = .error fault)
    (hfault : fault ≠ .notFound) : (answer t cwd site "GET" target).status = 500 := by
  have hfind : find t cwd ⟨site.primary, false⟩ (pathOf target) = .broken :=
    find_of_refused hpath htext hfault
  simp [answer, dirs, lookUp, hfind, bare]

/-- The path of the target says these names of entries, with slashes between them. -/
structure Asks (target : String) (names : List String) : Prop where
  decoded : decoded? (pathOf target) = some ("/".intercalate names)
  nonempty : names ≠ []
  names : Path.AreNames names

theorem Asks.names?_eq (h : Asks target names) : names? (pathOf target) = some names := by
  obtain ⟨hordinary, hnames⟩ := Path.isOrdinary_intercalate h.nonempty h.names
  rw [names?_of_isOrdinary h.decoded hordinary, hnames]

/-- How a site answers when its directories are those at these two locations. -/
structure Serves (t : FileTree) (cwd : Location) (site : Site) (loc loc' : Location) : Prop where
  /-- A regular file of the first directory is shown. -/
  primary : ∀ {target names content}, Asks target names →
    FileTree.WithinLimits site.primary names → t.node? (loc ++ names) = some (.file content) →
      Shows (answer t cwd site "GET" target) content
  /-- One of the second is shown if there is none in the first. -/
  fallback : ∀ {target names content}, Asks target names →
    FileTree.WithinLimits site.primary names → FileTree.WithinLimits site.fallback names →
    ¬FileTree.IsFile (t.node? (loc ++ names)) → t.node? (loc' ++ names) = some (.file content) →
      Shows (answer t cwd site "GET" target) content
  /-- If there is none in either, the answer is no success. -/
  neither : ∀ {target names}, Asks target names → ¬FileTree.IsFile (t.node? (loc ++ names)) →
    ¬FileTree.IsFile (t.node? (loc' ++ names)) → (answer t cwd site "GET" target).status ≠ 200
  /-- Whatever is asked for, success is a regular file in one of the directories. -/
  only : ∀ {target}, (answer t cwd site "GET" target).status = 200 →
    ∃ names content, Path.AreNames names
      ∧ (t.node? (loc ++ names) = some (.file content)
        ∨ t.node? (loc' ++ names) = some (.file content))
      ∧ Shows (answer t cwd site "GET" target) content

section Answers

variable (hprimary : t.DirAt cwd site.primary loc) (hfallback : t.DirAt cwd site.fallback loc')

include hprimary hfallback

/-- Success is the regular file at the names that the path stands for, in one of the directories. -/
theorem file_of_status (h : (answer t cwd site "GET" target).status = 200) :
    ∃ names content, names? (pathOf target) = some names
      ∧ (t.node? (loc ++ names) = some (.file content)
        ∨ t.node? (loc' ++ names) = some (.file content))
      ∧ Shows (answer t cwd site "GET" target) content := by
  obtain ⟨content, file, hfound⟩ := file_of_answer h
  obtain ⟨dir, hdir, hfind⟩ := lookUp_eq_file hfound
  simp only [dirs, List.mem_cons, List.not_mem_nil, or_false] at hdir
  rcases hdir with rfl | rfl
  · obtain ⟨names, hnames, hfile⟩ := find_eq_file hprimary.locate hfind
    exact ⟨names, content, hnames, .inl hfile, answer_of_file hfound⟩
  · obtain ⟨names, hnames, hfile⟩ := find_eq_file hfallback.locate hfind
    exact ⟨names, content, hnames, .inr hfile, answer_of_file hfound⟩

/-- **A site shows the files of its directories**, those of the first before those of the second,
and never anything else. -/
theorem answer_serves (hs : t.Sound) : Serves t cwd site loc loc' where
  primary hasks hfits hfile := by
    have hfind := find_of_fits hs hprimary hasks.names?_eq hfits
    rw [hfile] at hfind
    exact answer_of_file (lookUp_of_file hfind)
  fallback {target names content} hasks hfits hfits' hno hfile := by
    have hfind := find_of_fits hs hprimary hasks.names?_eq hfits
    have hmissing : find t cwd ⟨site.primary, false⟩ (pathOf target) = .missing := by
      rw [hfind]
      split
      · rename_i heq
        rw [heq] at hno
        exact absurd trivial hno
      · rfl
    have hfind' := find_of_fits hs hfallback hasks.names?_eq hfits'
    rw [hfile] at hfind'
    exact answer_of_file ((lookUp_of_missing hmissing).trans (lookUp_of_file hfind'))
  neither hasks hno hno' hstatus := by
    obtain ⟨names, content, hnames, hfile, -⟩ := file_of_status hprimary hfallback hstatus
    obtain rfl := Option.some.inj (hasks.names?_eq.symm.trans hnames)
    rcases hfile with hfile | hfile
    · exact hno (by rw [hfile]; trivial)
    · exact hno' (by rw [hfile]; trivial)
  only hstatus := by
    obtain ⟨names, content, hnames, hfile, hshows⟩ := file_of_status hprimary hfallback hstatus
    exact ⟨names, content, areNames_of_names? hnames, hfile, hshows⟩

end Answers

/-! The staging area has a directory where the runtime has a file, of which the address writes one
letter with a percent sign. -/

namespace SmallSite

def tree : FileTree :=
  ⟨[(["stage"], .dir), (["stage", "lib"], .dir), (["run"], .dir), (["run", "lib"], .file [59])]⟩

def roots : Site := ⟨"/stage", "/run"⟩

end SmallSite

theorem answer_serves_behind_directory :
    Shows (answer SmallSite.tree [] SmallSite.roots "GET" "/li%62?v=1") [59] := by
  have hs : SmallSite.tree.Sound :=
    FileTree.sound_of_entries (by decide : ∀ entry ∈ SmallSite.tree.entries, _)
  have hstage : SmallSite.tree.DirAt [] SmallSite.roots.primary ["stage"] := ⟨rfl, rfl⟩
  have hrun : SmallSite.tree.DirAt [] SmallSite.roots.fallback ["run"] := ⟨rfl, rfl⟩
  have hasks : Asks "/li%62?v=1" ["lib"] := ⟨by decide +kernel, by decide, by decide +kernel⟩
  exact (answer_serves hstage hrun hs).fallback hasks ⟨by decide +kernel, by decide⟩
    ⟨by decide +kernel, by decide⟩ (by decide) rfl

end Site

end GrammarBench
