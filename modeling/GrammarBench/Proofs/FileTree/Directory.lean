import GrammarBench.Proofs.FileTree.Entry
import GrammarBench.Proofs.Path

/-!
# Directories

A directory that is there is not made again (`makeDirs_of_isDirAt`), and one whose parent is there
is made alone (`makeDirs_of_parent`), so making the directories of a place that is known changes at
most one entry. `Within loc t t'` is what may happen to a tree while one works in the directory at
`loc`: no entry is lost, and no directory appears or disappears elsewhere.

When a directory is removed again, other paths are followed as before, as long as they do not lead
through it. A path that was followed before the directory was made does not (`walk_remove`): each
segment does the same in every tree where it is followed at all.
-/

namespace GrammarBench.FileTree

variable {t t' t₀ : FileTree} {cwd loc l m : Location} {p : Path}

/-! ## Directories that are there -/

theorem isDirAt_iff :
    t.isDirAt cwd p = true ↔ ∃ l, t.locate cwd p = .ok l ∧ t.isDir l = true := by
  unfold isDirAt
  cases t.locate cwd p <;> simp

/-- A slash at the end of the path of a directory leads nowhere else. -/
theorem walk_dirBody (hdir : t.isDir l = true) :
    t.walk loc p.dirBody = .ok l ↔ t.walk loc p.body = .ok l := by
  unfold Path.dirBody
  split
  · rename_i hlast
    obtain ⟨init, hbody⟩ := List.getLast?_eq_some_iff.mp hlast
    have hslash : ∀ {m n}, t.walk m [""] = .ok n ↔ t.isDir m = true ∧ n = m := by
      intro m n
      simp [walk, step_eq_ok, Path.isIdle]
    rw [hbody, List.dropLast_concat, walk_append, bind_eq_ok]
    refine ⟨fun h => ⟨l, h, hslash.mpr ⟨hdir, rfl⟩⟩, ?_⟩
    rintro ⟨m, hm, hstay⟩
    rwa [(hslash.mp hstay).2]
  · rfl

theorem makeDir_of_isDirAt (h : t.isDirAt cwd p = true) :
    ∃ fault, t.makeDir cwd p = .error fault := by
  cases hmade : t.makeDir cwd p with
  | error fault => exact ⟨fault, rfl⟩
  | ok made =>
      obtain ⟨end_, name, htarget, hname, hproper, -, hnone, -⟩ := makeDir_eq_ok hmade
      obtain ⟨hfull, init, slashes, hbody, hparent, -⟩ := target_last htarget hname
      -- The path leads to a directory, so its last segment that counts leads to an entry.
      obtain ⟨l, hloc, -⟩ := isDirAt_iff.mp h
      obtain ⟨-, hwalk⟩ := locate_eq_ok.mp hloc
      rw [hbody, walk_append, hparent, ok_bind] at hwalk
      obtain ⟨m, hstep, -⟩ := bind_eq_ok.mp hwalk
      obtain ⟨-, -, hsome, -⟩ := (step_name_eq_ok hfull hproper).mp hstep
      rw [hnone] at hsome
      cases hsome

theorem ensureDir_of_isDirAt (h : t.isDirAt cwd p = true) : t.ensureDir cwd p = (.ok (), t) := by
  obtain ⟨fault, hfault⟩ := makeDir_of_isDirAt h
  simp only [ensureDir, hfault, h, if_true]

/-- Nothing is made where a directory is. -/
theorem makeDirs_of_isDirAt (h : t.isDirAt cwd p = true) : t.makeDirs cwd p = (.ok (), t) := by
  simp only [makeDirs, makeDirsFrom, ensureDir_of_isDirAt h]
  split <;> rfl

/-- A fault that makes no parents of the directory leaves the tree. -/
theorem makeDirs_of_fault {fault : IoFault} (h : t.makeDir cwd p = .error fault)
    (hfault : fault ≠ .notFound) : (t.makeDirs cwd p).2 = t := by
  simp only [makeDirs, makeDirsFrom, ensureDir, h]
  split
  · rfl
  · split
    · rename_i heq
      split at heq
      · cases heq
      · cases heq
        exact absurd rfl hfault
    · split <;> rfl

theorem ne_notFound_of_checkText {fault : IoFault} (hp : p ≠ "")
    (h : checkText p = .error fault) : fault ≠ .notFound := by
  rintro rfl
  unfold checkText at h
  split at h
  · cases h
  · split at h
    · cases h
    · split at h
      · rename_i hempty
        exact hp (String.isEmpty_iff.mp hempty)
      · cases h

theorem ne_notFound_of_checkName {name : String} {fault : IoFault}
    (h : checkName name = .error fault) : fault ≠ .notFound := by
  rintro rfl
  unfold checkName at h
  split at h <;> cases h

/-- Where the parent is there, at most the directory itself is made. -/
theorem makeDirs_of_parent {init : List String} {name : String} {parent : Location}
    (hbody : p.body = init ++ [name]) (hne : name ≠ "") (hproper : isName name = true)
    (hwalk : t.walk (start cwd p) init = .ok parent) (hdir : t.isDir parent = true) :
    (t.makeDirs cwd p).2 = t ∨
      t.node? (parent ++ [name]) = none
        ∧ (t.makeDirs cwd p).2 = t.put (parent ++ [name]) .dir := by
  have hp : p ≠ "" := by
    rintro rfl
    have hlast := congrArg List.getLast? hbody
    rw [List.getLast?_concat] at hlast
    exact hne (Option.some.inj hlast).symm
  cases htext : checkText p with
  | error fault =>
      refine .inl (makeDirs_of_fault (show t.makeDir cwd p = .error fault from ?_)
        (ne_notFound_of_checkText hp htext))
      simp only [makeDir, target, htext, error_bind]
  | ok =>
      have htarget := target_of_body htext hbody hne hwalk hdir
      cases hfits : checkName name with
      | error fault =>
          refine .inl (makeDirs_of_fault (show t.makeDir cwd p = .error fault from ?_)
            (ne_notFound_of_checkName hfits))
          simp only [makeDir, htarget, ok_bind, hproper, hfits, error_bind]
          rfl
      | ok =>
          by_cases hsome : (t.node? (parent ++ [name])).isSome = true
          · refine .inl (makeDirs_of_fault
              (show t.makeDir cwd p = .error .alreadyExists from ?_) (by decide))
            simp only [makeDir, htarget, ok_bind, hproper, hfits, hsome]
            rfl
          · have hmade : t.makeDir cwd p = .ok (t.put (parent ++ [name]) .dir) := by
              simp only [makeDir, htarget, ok_bind, hproper, hfits, hsome]
              rfl
            have hfull : p.isEmpty = false := by
              rwa [Bool.eq_false_iff, ne_eq, String.isEmpty_iff]
            refine .inr ⟨by simpa using hsome, ?_⟩
            simp only [makeDirs, makeDirsFrom, ensureDir, hmade, hfull]
            rfl

/-! ## Working in a directory -/

/-- What may happen to a tree while one works in the directory at `loc`. -/
structure Within (loc : Location) (t t' : FileTree) : Prop extends Keeps t t' where
  outside : ∀ l, ¬loc <+: l → t'.isDir l = t.isDir l

namespace Within

theorem refl (loc : Location) (t : FileTree) : Within loc t t :=
  ⟨⟨fun _ h => h, fun _ h => h⟩, fun _ _ => rfl⟩

theorem trans {t'' : FileTree} (h : Within loc t t') (h' : Within loc t' t'') :
    Within loc t t'' where
  dir l hl := h'.dir l (h.dir l hl)
  entry l hl := h'.entry l (h.entry l hl)
  outside l hl := (h'.outside l hl).trans (h.outside l hl)

theorem put_dir (hbelow : loc <+: l) (hnone : t.node? l = none) : Within loc t (t.put l .dir) where
  toKeeps := .put (by rw [isDir, hnone]; rfl)
  outside m hm := by
    have hne : m ≠ l := fun heq => hm (heq ▸ hbelow)
    rw [isDir, isDir, node?_put_of_ne hne]

theorem of_write {content : List UInt8} (loc : Location) (h : t.write cwd p content = .ok t') :
    Within loc t t' := by
  obtain ⟨parent, name, -, hdir, rfl⟩ := write_eq_ok.mp h
  refine ⟨.put hdir, fun m _ => ?_⟩
  by_cases hm : m = parent ++ [name]
  · rw [hm, hdir, isDir, node?_put_self (by simp)]
    rfl
  · rw [isDir, isDir, node?_put_of_ne hm]

end Within

/-! ## Paths that do not lead through a directory -/

/-- A segment does the same wherever it is followed. -/
theorem step_lexical {segment : String} (h₀ : t₀.step loc segment = .ok l)
    (h : t.step loc segment = .ok m) : l = m := by
  obtain ⟨-, h₀⟩ := step_eq_ok.mp h₀
  obtain ⟨-, h⟩ := step_eq_ok.mp h
  split at h₀
  · rw [if_pos ‹_›] at h
    rw [h₀, h]
  · rw [if_neg ‹_›] at h
    split at h₀
    · rw [if_pos ‹_›] at h
      rw [h₀, h]
    · rw [if_neg ‹_›] at h
      rw [h₀.2.2, h.2.2]

variable {gone : Location}

/-- A segment that is followed where nothing stands at `gone` does not lead there. -/
theorem step_avoids {segment : String} (hnone : t₀.node? gone = none) (hloc : ¬gone <+: loc)
    (h : t₀.step loc segment = .ok l) : ¬gone <+: l := by
  obtain ⟨-, hgo⟩ := step_eq_ok.mp h
  split at hgo
  · rwa [hgo]
  · split at hgo
    · rw [hgo]
      exact fun hpre => hloc (hpre.trans (List.dropLast_prefix loc))
    · rw [hgo.2.2]
      intro hpre
      rcases List.prefix_concat_iff.mp hpre with heq | hpre
      · rw [← heq, hnone] at hgo
        cases hgo.2.1
      · exact hloc hpre

/-- **A path that was followed before anything stood at `gone`** is followed in the same way when
what stands there is removed. -/
theorem walk_remove {segments : List String} (hnone : t₀.node? gone = none) (hloc : ¬gone <+: loc)
    (h₀ : t₀.walk loc segments = .ok l) (h : t.walk loc segments = .ok m) :
    (t.remove gone).walk loc segments = .ok m ∧ ¬gone <+: m := by
  induction segments generalizing loc with
  | nil =>
      cases h
      exact ⟨rfl, hloc⟩
  | cons segment rest ih =>
      simp only [walk, List.foldlM_cons] at h₀ h ⊢
      obtain ⟨next, hstep₀, hrest₀⟩ := bind_eq_ok.mp h₀
      obtain ⟨next', hstep, hrest⟩ := bind_eq_ok.mp h
      obtain rfl := step_lexical hstep₀ hstep
      have hnext := step_avoids hnone hloc hstep₀
      have hsame : (t.remove gone).step loc segment = .ok next := by
        rw [step_eq_ok, isDir, node?_remove hloc]
        obtain ⟨hdir, hgo⟩ := step_eq_ok.mp hstep
        refine ⟨hdir, ?_⟩
        split
        · rwa [if_pos ‹_›] at hgo
        · rw [if_neg ‹_›] at hgo
          split
          · rwa [if_pos ‹_›] at hgo
          · rw [if_neg ‹_›] at hgo
            rw [← hgo.2.2, node?_remove hnext]
            exact ⟨hgo.1, hgo.2.2 ▸ hgo.2.1, rfl⟩
      rw [hsame, ok_bind]
      exact ih hnext hrest₀ hrest

end GrammarBench.FileTree
