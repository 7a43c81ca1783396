import GrammarBench.FileTree.Walk
import GrammarBench.Proofs.Action
import Mathlib.Data.List.DropRight

/-!
# What a path leads to after a change

The operations on a tree look at a path in two ways: `locate` follows all of it, and `target`
follows all but its last segment. Both come down to one relation, `Names`: the path names an entry
of a directory. An operation that succeeds has named an entry and put a node there, and nothing
else (`write_eq_ok`, `makeDir_eq_ok`); a path that names an entry is followed to it in every tree
that keeps the directories on the way (`Names.locate`). Together they say that what was written is
there (`holds_of_write`) and stays there while directories are made (`Holds.of_nodes`) and files of
other names are written (`Holds.of_write`).
-/

namespace GrammarBench.FileTree

variable {t t' : FileTree} {cwd loc l : Location} {p : Path} {node : Node}

/-! ## Looking up after putting -/

@[simp] theorem node?_root (t : FileTree) : t.node? [] = some .dir := rfl

/-- Entries that are picked by their locations are found where they were. -/
theorem lookup_filter (entries : List (Location × Node)) (keep : Location → Bool)
    (h : keep l = true) : (entries.filter (keep ·.1)).lookup l = entries.lookup l := by
  induction entries with
  | nil => rfl
  | cons entry rest ih =>
      obtain ⟨at_, node⟩ := entry
      by_cases hat : l = at_
      · subst hat
        simp [h]
      · have hl : (l == at_) = false := by simpa using hat
        simp only [List.filter_cons, List.lookup_cons, hl, ← ih]
        split
        · simp [List.lookup_cons, hl]
        · rfl

theorem node?_put_self (h : loc ≠ []) : (t.put loc node).node? loc = some node := by
  simp [put, node?, h]

theorem node?_put_of_ne (h : l ≠ loc) : (t.put loc node).node? l = t.node? l := by
  have hl : (l == loc) = false := by simpa using h
  have hrest := lookup_filter t.entries (· != loc) (by simpa using h)
  simp [put, node?, List.lookup_cons, hl, hrest]

/-- What stands elsewhere than at a location or below it stays when that is removed. -/
theorem node?_remove (h : ¬loc <+: l) : (t.remove loc).node? l = t.node? l := by
  have hkeep : (!loc.isPrefixOf l) = true := by
    rw [Bool.not_eq_true', Bool.eq_false_iff, ne_eq, List.isPrefixOf_iff_prefix]
    exact h
  have hrest := lookup_filter t.entries (!loc.isPrefixOf ·) hkeep
  simp only [remove, node?, hrest]

/-- Nothing is left where something was removed, nor below. -/
theorem node?_remove_below (hbelow : loc <+: l) (hne : l ≠ []) : (t.remove loc).node? l = none := by
  have hgone : (t.entries.filter (!loc.isPrefixOf ·.1)).lookup l = none := by
    rw [List.lookup_eq_none_iff]
    rintro ⟨at_, node⟩ hmem
    have hkeep := (List.mem_filter.mp hmem).2
    rw [bne_iff_ne]
    rintro rfl
    simp only [Bool.not_eq_true', Bool.eq_false_iff] at hkeep
    exact hkeep (List.isPrefixOf_iff_prefix.mpr hbelow)
  simp only [remove, node?, List.isEmpty_iff, hne, if_false, hgone]

theorem node?_remove_self (h : loc ≠ []) : (t.remove loc).node? loc = none :=
  node?_remove_below (List.prefix_refl loc) h

/-! ## Following paths in a tree that keeps places -/

/-- Directories of `t` are directories of `t'`, and where `t` has an entry, `t'` has one. -/
structure Keeps (t t' : FileTree) : Prop where
  dir : ∀ l, t.isDir l = true → t'.isDir l = true
  entry : ∀ l, (t.node? l).isSome = true → (t'.node? l).isSome = true

theorem Keeps.of_nodes (h : ∀ l node, t.node? l = some node → t'.node? l = some node) :
    Keeps t t' where
  dir l hl := by
    simp only [isDir, beq_iff_eq] at hl ⊢
    exact h l .dir hl
  entry l hl := by
    obtain ⟨node, hnode⟩ := Option.isSome_iff_exists.mp hl
    rw [h l node hnode]
    rfl

/-- Putting a node where no directory stands keeps every directory. -/
theorem Keeps.put (hdir : t.isDir loc = false) : Keeps t (t.put loc node) where
  dir l hl := by
    have hne : l ≠ loc := fun h => by rw [h, hdir] at hl; cases hl
    simp only [isDir, node?_put_of_ne hne]
    exact hl
  entry l hl := by
    by_cases hne : l = loc
    · have hroot : loc ≠ [] := fun h => by rw [h] at hdir; cases hdir
      rw [hne, node?_put_self hroot]
      rfl
    · rwa [node?_put_of_ne hne]

/-- What one segment does: it stays, goes up, or goes down to an entry that is there. -/
theorem step_eq_ok {segment : String} :
    t.step loc segment = .ok l ↔
      t.isDir loc = true ∧
        (if Path.isIdle segment then l = loc
         else if segment = ".." then l = loc.dropLast
         else checkName segment = .ok () ∧ (t.node? (loc ++ [segment])).isSome = true
          ∧ l = loc ++ [segment]) := by
  simp only [step, enter]
  by_cases hdir : t.isDir loc = true
  · simp only [hdir, if_true, ok_bind, true_and, beq_iff_eq]
    split
    · simp [pure, Except.pure, eq_comm]
    · split
      · simp [pure, Except.pure, eq_comm]
      · cases checkName segment with
        | error fault => simp
        | ok =>
            by_cases hsome : (t.node? (loc ++ [segment])).isSome = true
            · simp [pure, Except.pure, eq_comm, hsome]
            · simp [throw, throwThe, MonadExceptOf.throw, hsome]
  · simp [hdir]

theorem isName_iff {name : String} : isName name = true ↔ name ≠ "." ∧ name ≠ ".." := by
  simp [isName]

theorem isIdle_of_isName {name : String} (hne : name ≠ "") (hproper : isName name = true) :
    Path.isIdle name = false := by
  simp [Path.isIdle, hne, (isName_iff.mp hproper).1]

/-- A proper name goes down to the entry of that name. -/
theorem step_name_eq_ok {name : String} (hne : name ≠ "") (hproper : isName name = true) :
    t.step loc name = .ok l ↔
      t.isDir loc = true ∧ checkName name = .ok () ∧ (t.node? (loc ++ [name])).isSome = true
        ∧ l = loc ++ [name] := by
  rw [step_eq_ok, isIdle_of_isName hne hproper, if_neg Bool.false_ne_true,
    if_neg (isName_iff.mp hproper).2]

/-- One segment is followed in the same way where places are kept. -/
theorem step_of_keeps (hk : Keeps t t') {segment : String}
    (h : t.step loc segment = .ok l) : t'.step loc segment = .ok l := by
  rw [step_eq_ok] at h ⊢
  obtain ⟨hdir, hgo⟩ := h
  refine ⟨hk.dir loc hdir, ?_⟩
  split
  · rwa [if_pos ‹_›] at hgo
  · rw [if_neg ‹_›] at hgo
    split
    · rwa [if_pos ‹_›] at hgo
    · rw [if_neg ‹_›] at hgo
      exact ⟨hgo.1, hk.entry _ hgo.2.1, hgo.2.2⟩

theorem walk_of_keeps (hk : Keeps t t') {segments : List String} {loc : Location}
    (h : t.walk loc segments = .ok l) : t'.walk loc segments = .ok l := by
  induction segments generalizing loc with
  | nil => exact h
  | cons segment rest ih =>
      simp only [walk, List.foldlM_cons] at h ⊢
      obtain ⟨next, hstep, hrest⟩ := bind_eq_ok.mp h
      rw [step_of_keeps hk hstep]
      exact ih hrest

theorem walk_append (t : FileTree) (loc : Location) (before after : List String) :
    t.walk loc (before ++ after) = t.walk loc before >>= fun l => t.walk l after :=
  List.foldlM_append

theorem locate_eq_ok :
    t.locate cwd p = .ok l ↔ checkText p = .ok () ∧ t.walk (start cwd p) p.body = .ok l := by
  rw [locate, bind_eq_ok]
  exact ⟨fun ⟨⟨⟩, htext, hwalk⟩ => ⟨htext, hwalk⟩, fun ⟨htext, hwalk⟩ => ⟨(), htext, hwalk⟩⟩

theorem locate_of_keeps (hk : Keeps t t') (h : t.locate cwd p = .ok l) :
    t'.locate cwd p = .ok l := by
  obtain ⟨htext, hwalk⟩ := locate_eq_ok.mp h
  exact locate_eq_ok.mpr ⟨htext, walk_of_keeps hk hwalk⟩

theorem checkText_eq_ok :
    checkText p = .ok () ↔ '\x00' ∉ p.toList ∧ p.utf8ByteSize < pathLimit ∧ p ≠ "" := by
  unfold checkText
  split
  · simp_all
  · split
    · rename_i hlong
      simp [hlong.not_gt]
    · split <;> simp_all

/-- The beginning of a path that passes is a path that passes. -/
theorem checkText_of_append {rest : String} (hp : p ≠ "") (h : checkText (p ++ rest) = .ok ()) :
    checkText p = .ok () := by
  obtain ⟨hnul, hlimit, -⟩ := checkText_eq_ok.mp h
  rw [String.toList_append, List.mem_append, not_or] at hnul
  rw [String.utf8ByteSize_append] at hlimit
  exact checkText_eq_ok.mpr ⟨hnul.1, by omega, hp⟩

/-! ## Naming an entry -/

/-- The path names the entry `name` of the directory at `parent`: all its segments but the last lead
there, and the last one is a proper name. Whether there is such an entry is left open. -/
structure Names (t : FileTree) (cwd : Location) (p : Path) (parent : Location) (name : String) :
    Prop where
  text : checkText p = .ok ()
  body : ∃ init, p.body = init ++ [name] ∧ t.walk (start cwd p) init = .ok parent
  parent_dir : t.isDir parent = true
  nonempty : name ≠ ""
  proper : isName name = true
  fits : checkName name = .ok ()

theorem Names.mono {parent : Location} {name : String} (hn : Names t cwd p parent name)
    (hk : Keeps t t') : Names t' cwd p parent name := by
  obtain ⟨init, hbody, hwalk⟩ := hn.body
  exact ⟨hn.text, ⟨init, hbody, walk_of_keeps hk hwalk⟩, hk.dir _ hn.parent_dir, hn.nonempty,
    hn.proper, hn.fits⟩

theorem Names.getLast?_body {parent : Location} {name : String}
    (hn : Names t cwd p parent name) : p.body.getLast? = some name := by
  obtain ⟨init, hbody, -⟩ := hn.body
  rw [hbody, List.getLast?_concat]

/-- A path that names an entry leads to it, if it is there. -/
theorem Names.locate {parent : Location} {name : String} (hn : Names t cwd p parent name)
    (hsome : (t.node? (parent ++ [name])).isSome = true) :
    t.locate cwd p = .ok (parent ++ [name]) := by
  obtain ⟨init, hbody, hwalk⟩ := hn.body
  have hstep : t.step parent name = .ok (parent ++ [name]) :=
    (step_name_eq_ok hn.nonempty hn.proper).mpr ⟨hn.parent_dir, hn.fits, hsome, rfl⟩
  rw [FileTree.locate, hn.text, ok_bind, walk, hbody, List.foldlM_append]
  rw [walk] at hwalk
  rw [hwalk]
  simpa using hstep

/-- A path that leads to an entry and ends in a proper name names that entry. -/
theorem Names.of_locate {init : List String} {name : String} (h : t.locate cwd p = .ok l)
    (hbody : p.body = init ++ [name]) (hne : name ≠ "") (hproper : isName name = true) :
    ∃ parent, Names t cwd p parent name ∧ l = parent ++ [name] := by
  obtain ⟨htext, hwalk⟩ := locate_eq_ok.mp h
  rw [hbody, walk_append] at hwalk
  obtain ⟨parent, hinit, hlast⟩ := bind_eq_ok.mp hwalk
  have hstep : t.step parent name = .ok l := by simpa [walk] using hlast
  obtain ⟨hdir, hfits, -, rfl⟩ := (step_name_eq_ok hne hproper).mp hstep
  exact ⟨parent, ⟨htext, ⟨init, hbody, hinit⟩, hdir, hne, hproper, hfits⟩, rfl⟩

/-- The text of the file that a path names is what the tree holds there. -/
theorem Names.read {parent : Location} {name : String} {content : List UInt8}
    (hn : Names t cwd p parent name)
    (hfile : t.node? (parent ++ [name]) = some (.file content)) : t.read cwd p = .ok content := by
  have hloc := hn.locate (by rw [hfile]; rfl)
  simp only [FileTree.read, hloc, ok_bind, hfile]
  rfl

/-! ## What an operation puts into the tree -/

/-- What a path is taken apart into when it is to name a new entry: the segments that count are
those before the empty ones at the end. -/
theorem target_eq_ok {end_ : Target} (h : t.target cwd p = .ok end_) :
    checkText p = .ok ()
      ∧ t.walk (start cwd p) (p.body.rdropWhile (· == "")).dropLast = .ok end_.parent
      ∧ t.isDir end_.parent = true ∧ end_.last = (p.body.rdropWhile (· == "")).getLast?
      ∧ end_.closed = decide ((p.body.rdropWhile (· == "")).length < p.body.length) := by
  simp only [target] at h
  obtain ⟨_, htext, h⟩ := bind_eq_ok.mp h
  obtain ⟨parent, hwalk, h⟩ := bind_eq_ok.mp h
  obtain ⟨dir, henter, h⟩ := bind_eq_ok.mp h
  simp only [enter] at henter
  split at henter
  · rename_i hdir
    cases henter
    cases h
    exact ⟨htext, hwalk, hdir, rfl, rfl⟩
  · cases henter

/-- The last segment that counts is not empty, and behind it there are only slashes. -/
theorem target_last {end_ : Target} {name : String} (h : t.target cwd p = .ok end_)
    (hlast : end_.last = some name) :
    name ≠ "" ∧ ∃ init slashes, p.body = init ++ name :: slashes
      ∧ t.walk (start cwd p) init = .ok end_.parent ∧ ∀ segment ∈ slashes, segment = "" := by
  obtain ⟨-, hparent, -, hl, -⟩ := target_eq_ok h
  have hne : p.body.rdropWhile (· == "") ≠ [] := by
    intro hnil
    rw [hnil, List.getLast?_nil, hlast] at hl
    cases hl
  have hcore : (p.body.rdropWhile (· == "")).getLast hne = name := by
    rw [hlast, List.getLast?_eq_some_getLast hne] at hl
    exact (Option.some.inj hl).symm
  refine ⟨?_, _, p.body.rtakeWhile (· == ""), ?_, hparent, ?_⟩
  · have := List.rdropWhile_last_not (· == "") p.body hne
    rw [hcore] at this
    simpa using this
  · rw [List.append_cons, ← hcore, List.dropLast_append_getLast, List.rdropWhile_append_rtakeWhile]
  · intro segment hmem
    simpa using List.mem_rtakeWhile_imp hmem

/-- Where no slash follows the last segment and that segment is a name, the path names an entry. -/
theorem Names.of_target {end_ : Target} {name : String} (h : t.target cwd p = .ok end_)
    (hlast : end_.last = some name) (hclosed : end_.closed = false) (hproper : isName name = true)
    (hfits : checkName name = .ok ()) : Names t cwd p end_.parent name := by
  obtain ⟨htext, hwalk, hdir, hl, hc⟩ := target_eq_ok h
  have hsame : p.body.rdropWhile (· == "") = p.body := by
    refine (List.rdropWhile_prefix (· == "") p.body).eq_of_length_le ?_
    simpa [hc] using hclosed
  rw [hsame] at hwalk hl
  have hne : p.body ≠ [] := fun hnil => by simp [hl, hnil] at hlast
  have hname : p.body.getLast hne = name := by
    simpa [hl, List.getLast?_eq_some_getLast hne] using hlast
  refine ⟨htext, ⟨_, ?_, hwalk⟩, hdir, ?_, hproper, hfits⟩
  · rw [← hname, List.dropLast_append_getLast]
  · have := List.rdropWhile_eq_self_iff.mp hsame hne
    simpa [hname] using this

theorem rdropWhile_body {init : List String} {name : String} (hbody : p.body = init ++ [name])
    (hne : name ≠ "") : p.body.rdropWhile (· == "") = p.body := by
  rw [List.rdropWhile_eq_self_iff]
  intro hnil
  simp [hbody, hne]

/-- A path whose last segment is not empty ends in that segment when it is to name a new entry. -/
theorem target_of_walk {init : List String} {name : String} (htext : checkText p = .ok ())
    (hbody : p.body = init ++ [name]) (hne : name ≠ "") :
    t.target cwd p = t.walk (start cwd p) init >>= fun l =>
      t.enter l >>= fun parent => .ok { parent, last := some name, closed := false } := by
  have hsegments : (p.body.reverse.dropWhile (· == "")).reverse = p.body :=
    rdropWhile_body hbody hne
  simp only [FileTree.target, htext, ok_bind, hsegments]
  rw [hbody, List.dropLast_concat]
  simp [pure, Except.pure]

theorem target_of_body {init : List String} {name : String} {parent : Location}
    (htext : checkText p = .ok ()) (hbody : p.body = init ++ [name]) (hne : name ≠ "")
    (hwalk : t.walk (start cwd p) init = .ok parent) (hdir : t.isDir parent = true) :
    t.target cwd p = .ok { parent, last := some name, closed := false } := by
  rw [target_of_walk htext hbody hne, hwalk, ok_bind, enter, if_pos hdir, ok_bind]

theorem Names.target {parent : Location} {name : String} (hn : Names t cwd p parent name) :
    t.target cwd p = .ok { parent, last := some name, closed := false } := by
  obtain ⟨init, hbody, hwalk⟩ := hn.body
  exact target_of_body hn.text hbody hn.nonempty hwalk hn.parent_dir

section Target

variable {parent : Location} {name : String}
  (h : t.target cwd p = .ok { parent, last := some name, closed := false })

include h

theorem write_of_target (content : List UInt8) :
    t.write cwd p content =
      if !isName name then .error .isDirectory
      else checkName name >>= fun _ =>
        if t.isDir (parent ++ [name]) then .error .isDirectory
        else .ok (t.put (parent ++ [name]) (.file content)) := by
  simp only [write, h, ok_bind, Bool.false_or]
  cases isName name <;> rfl

theorem makeDir_of_target :
    t.makeDir cwd p =
      if !isName name then .error .alreadyExists
      else checkName name >>= fun _ =>
        if (t.node? (parent ++ [name])).isSome then .error .alreadyExists
        else .ok (t.put (parent ++ [name]) .dir) := by
  simp only [makeDir, h, ok_bind]
  cases isName name <;> rfl

end Target

/-- Writing succeeds exactly where the path names an entry that is no directory; the file is put
there, and that is all. -/
theorem write_eq_ok {content : List UInt8} :
    t.write cwd p content = .ok t' ↔
      ∃ parent name, Names t cwd p parent name ∧ t.isDir (parent ++ [name]) = false
        ∧ t' = t.put (parent ++ [name]) (.file content) := by
  constructor
  · intro h
    obtain ⟨end_, htarget, h⟩ := bind_eq_ok.mp h
    split at h
    · rename_i name hlast
      by_cases hbad : (end_.closed || !isName name) = true
      · simp [hbad, throw, throwThe, MonadExceptOf.throw] at h
      · simp only [hbad, Bool.false_eq_true, if_false] at h
        obtain ⟨_, hfits, h⟩ := bind_eq_ok.mp h
        simp only [Bool.or_eq_true, Bool.not_eq_true', not_or, Bool.not_eq_true,
          Bool.not_eq_false] at hbad
        have hn := Names.of_target htarget hlast hbad.1 hbad.2 hfits
        split at h
        · cases h
        · rename_i hdir
          cases h
          exact ⟨_, name, hn, by simpa using hdir, rfl⟩
    · cases h
  · rintro ⟨parent, name, hn, hdir, rfl⟩
    simp only [write, hn.target, ok_bind, hn.proper, hn.fits, hdir]
    rfl

/-! ## Files that stay -/

/-- The path names a file with this content. -/
def Holds (t : FileTree) (cwd : Location) (p : Path) (content : List UInt8) : Prop :=
  ∃ parent name, Names t cwd p parent name ∧ t.node? (parent ++ [name]) = some (.file content)

variable {content other : List UInt8}

theorem Holds.read (h : Holds t cwd p content) : t.read cwd p = .ok content := by
  obtain ⟨parent, name, hn, hfile⟩ := h
  exact hn.read hfile

theorem Holds.of_read {init : List String} {name : String} (h : t.read cwd p = .ok content)
    (hbody : p.body = init ++ [name]) (hne : name ≠ "") (hproper : isName name = true) :
    Holds t cwd p content := by
  obtain ⟨loc, hloc, hnode⟩ := bind_eq_ok.mp h
  obtain ⟨parent, hn, rfl⟩ := Names.of_locate hloc hbody hne hproper
  split at hnode
  · rename_i bytes hfile
    cases hnode
    exact ⟨parent, name, hn, hfile⟩
  · cases hnode

theorem holds_of_write (h : t.write cwd p content = .ok t') : Holds t' cwd p content := by
  obtain ⟨parent, name, hn, hdir, rfl⟩ := write_eq_ok.mp h
  exact ⟨parent, name, hn.mono (.put hdir), node?_put_self (by simp)⟩

theorem Holds.of_nodes (h : Holds t cwd p content)
    (hnodes : ∀ l node, t.node? l = some node → t'.node? l = some node) :
    Holds t' cwd p content := by
  obtain ⟨parent, name, hn, hfile⟩ := h
  exact ⟨parent, name, hn.mono (.of_nodes hnodes), hnodes _ _ hfile⟩

/-- A file stays when a file of another name is written. -/
theorem Holds.of_write {q : Path} (h : Holds t cwd p content)
    (hw : t.write cwd q other = .ok t') (hne : p.body.getLast? ≠ q.body.getLast?) :
    Holds t' cwd p content := by
  obtain ⟨parent, name, hn, hfile⟩ := h
  obtain ⟨parent', name', hn', hdir, rfl⟩ := write_eq_ok.mp hw
  have hlocs : parent ++ [name] ≠ parent' ++ [name'] := by
    intro heq
    obtain ⟨-, hnames⟩ := List.append_inj' heq rfl
    exact hne (by rw [hn.getLast?_body, hn'.getLast?_body, List.singleton_inj.mp hnames])
  exact ⟨parent, name, hn.mono (.put hdir), by rw [node?_put_of_ne hlocs, hfile]⟩

/-! ## Making directories

A directory is made only where nothing stands, so every node that was there stays. -/

/-- What making a directory takes, and what it puts. -/
theorem makeDir_eq_ok (h : t.makeDir cwd p = .ok t') :
    ∃ end_ name, t.target cwd p = .ok end_ ∧ end_.last = some name ∧ isName name = true
      ∧ checkName name = .ok () ∧ t.node? (end_.parent ++ [name]) = none
      ∧ t' = t.put (end_.parent ++ [name]) .dir := by
  obtain ⟨end_, htarget, h⟩ := bind_eq_ok.mp h
  split at h
  · rename_i name hlast
    split at h
    · cases h
    · rename_i hproper
      obtain ⟨_, hfits, h⟩ := bind_eq_ok.mp h
      dsimp only at h
      split at h
      · cases h
      · rename_i hnone
        cases h
        exact ⟨end_, name, htarget, hlast, by simpa using hproper, hfits, by simpa using hnone, rfl⟩
  · cases h

/-- A directory that is made by a path that ends in a name is the entry that the path names. -/
theorem Names.of_makeDir {init : List String} {name : String} (h : t.makeDir cwd p = .ok t')
    (hbody : p.body = init ++ [name]) (hne : name ≠ "") :
    ∃ parent, Names t cwd p parent name ∧ t.node? (parent ++ [name]) = none
      ∧ t' = t.put (parent ++ [name]) .dir := by
  obtain ⟨end_, last, htarget, hlast, hproper, hfits, hnone, rfl⟩ := makeDir_eq_ok h
  obtain ⟨-, -, -, hl, hclosed⟩ := target_eq_ok htarget
  rw [rdropWhile_body hbody hne] at hl hclosed
  obtain rfl : name = last := by
    rw [hbody, List.getLast?_concat, hlast] at hl
    exact (Option.some.inj hl).symm
  exact ⟨end_.parent, .of_target htarget hlast (by simpa using hclosed) hproper hfits, hnone, rfl⟩

theorem node?_makeDir (h : t.makeDir cwd p = .ok t') (hl : t.node? l = some node) :
    t'.node? l = some node := by
  obtain ⟨end_, name, -, -, -, -, hnone, rfl⟩ := makeDir_eq_ok h
  have hne : l ≠ end_.parent ++ [name] := fun heq => by rw [heq, hnone] at hl; cases hl
  rw [node?_put_of_ne hne, hl]

/-- Making sure of a directory is making it, or nothing. -/
theorem ensureDir_cases (t : FileTree) (cwd : Location) (p : Path) :
    (t.ensureDir cwd p).2 = t ∨ t.makeDir cwd p = .ok (t.ensureDir cwd p).2 := by
  unfold ensureDir
  split
  · right
    assumption
  · left
    split <;> rfl

section Rel

variable {R : FileTree → FileTree → Prop} (refl : ∀ t, R t t)
  (trans : ∀ {t t' t''}, R t t' → R t' t'' → R t t'')

include refl

theorem rel_ensureDir (make : ∀ {t'}, t.makeDir cwd p = .ok t' → R t t') :
    R t (t.ensureDir cwd p).2 := by
  rcases ensureDir_cases t cwd p with hsame | hmade
  · rw [hsame]
    exact refl t
  · exact make hmade

include trans

/-- The directories that are made are those of paths that the path has above it. -/
theorem rel_makeDirsFrom {P : Path → Prop} (up : ∀ {p q}, P p → p.parent? = some q → P q)
    (make : ∀ {t t' p}, P p → t.makeDir cwd p = .ok t' → R t t') :
    ∀ (fuel : Nat) (t : FileTree) (p : Path), P p → R t (t.makeDirsFrom cwd p fuel).2
  | 0, t, _, _ => refl t
  | fuel + 1, t, p, hp => by
      have hensure : ∀ t : FileTree, R t (t.ensureDir cwd p).2 := fun t =>
        rel_ensureDir refl (make hp)
      simp only [makeDirsFrom]
      split
      · exact refl t
      · split
        · split
          · exact refl t
          · rename_i parent hparent
            have hup := rel_makeDirsFrom up make fuel t parent (up hp hparent)
            split
            · rename_i t₁ hmade
              rw [hmade] at hup
              exact trans hup (hensure t₁)
            · rename_i fault t₁ hmade
              rwa [hmade] at hup
        · exact hensure t

/-- **Making directories is making one directory any number of times.** -/
theorem rel_makeDirs (make : ∀ {t t' p}, t.makeDir cwd p = .ok t' → R t t') (t : FileTree)
    (p : Path) : R t (t.makeDirs cwd p).2 :=
  rel_makeDirsFrom refl trans (P := fun _ => True) (fun _ _ => trivial) (fun _ h => make h) _ t p
    trivial

end Rel

/-- Making directories changes no node that is there. -/
theorem node?_makeDirs (hl : t.node? l = some node) :
    (t.makeDirs cwd p).2.node? l = some node :=
  rel_makeDirs (R := fun t t' => t.node? l = some node → t'.node? l = some node)
    (fun _ h => h) (fun h h' hl => h' (h hl)) node?_makeDir t p hl

end GrammarBench.FileTree
