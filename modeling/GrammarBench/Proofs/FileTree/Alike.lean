import GrammarBench.Proofs.FileTree.Site

/-!
# Trees that are alike in a directory

What is done by a path that leads into a directory depends on what is in there and on nothing else:
in two trees that are alike in the directory it ends in the same way and leaves them alike, and
elsewhere it changes neither (`LocalOn`). The directory is an entry `own` that a path `p` names, so
the path leads to it in both trees; the entry itself may be missing, or be a file.

A tree is `Sound` when every entry stands in a directory. Then nothing stands below a place where
nothing is.
-/

namespace GrammarBench.FileTree

variable {t t' t₁ t₂ : FileTree} {cwd loc dir l m : Location} {p q : Path} {own : String}

/-! ## Sound trees -/

/-- Every entry stands in a directory. -/
def Sound (t : FileTree) : Prop :=
  ∀ loc name, (t.node? (loc ++ [name])).isSome = true → t.isDir loc = true

theorem isSome_of_isDir (h : t.isDir l = true) : (t.node? l).isSome = true := by
  rw [beq_iff_eq.mp h]
  rfl

/-- It is enough to look at the entries that are listed. -/
theorem sound_of_entries (h : ∀ entry ∈ t.entries, t.isDir entry.1.dropLast = true) : t.Sound := by
  intro loc name hsome
  obtain ⟨node, hnode⟩ := Option.isSome_iff_exists.mp hsome
  rw [node?, if_neg (by simp)] at hnode
  obtain ⟨before, after, hentries, -⟩ := List.lookup_eq_some_iff.mp hnode
  simpa using h (loc ++ [name], node) (by rw [hentries]; simp)

namespace Sound

/-- Where something stands below a place, something stands at that place. -/
theorem isSome_of_prefix (h : t.Sound) {rest : List String}
    (hl : (t.node? (l ++ rest)).isSome = true) : (t.node? l).isSome = true := by
  induction rest using List.reverseRecOn with
  | nil => simpa using hl
  | append_singleton rest name ih =>
      rw [← List.append_assoc] at hl
      exact ih (isSome_of_isDir (h _ _ hl))

theorem put_dir {name : String} (h : t.Sound) (hdir : t.isDir loc = true)
    (hnone : t.node? (loc ++ [name]) = none) : (t.put (loc ++ [name]) .dir).Sound := by
  have hkeeps : Keeps t (t.put (loc ++ [name]) .dir) := .put (by rw [isDir, hnone]; rfl)
  intro m other hsome
  by_cases heq : m ++ [other] = loc ++ [name]
  · obtain ⟨rfl, -⟩ := List.append_inj' heq rfl
    exact hkeeps.dir _ hdir
  · rw [node?_put_of_ne heq] at hsome
    exact hkeeps.dir _ (h m other hsome)

theorem makeDir (h : t.Sound) (hmade : t.makeDir cwd p = .ok t') : t'.Sound := by
  obtain ⟨end_, name, htarget, -, -, -, hnone, rfl⟩ := makeDir_eq_ok hmade
  obtain ⟨-, -, hdir, -, -⟩ := target_eq_ok htarget
  exact h.put_dir hdir hnone

theorem makeDirs (h : t.Sound) : (t.makeDirs cwd p).2.Sound :=
  rel_makeDirs (R := fun t t' => t.Sound → t'.Sound) (fun _ h => h) (fun h h' hs => h' (h hs))
    (fun hmade hs => hs.makeDir hmade) t p h

end Sound

/-! ## Directories that were made -/

/-- Slashes behind a directory stay in it. -/
theorem walk_slashes {slashes : List String} (hdir : t.isDir l = true)
    (hslashes : ∀ segment ∈ slashes, segment = "") : t.walk l slashes = .ok l := by
  induction slashes with
  | nil => rfl
  | cons segment rest ih =>
      obtain rfl := hslashes segment List.mem_cons_self
      have hstep : t.step l "" = .ok l := step_eq_ok.mpr ⟨hdir, rfl⟩
      rw [walk, List.foldlM_cons, hstep]
      exact ih fun s hs => hslashes s (List.mem_cons_of_mem _ hs)

/-- A directory that was made is there. -/
theorem isDirAt_of_makeDir (h : t.makeDir cwd p = .ok t') : t'.isDirAt cwd p = true := by
  obtain ⟨end_, name, htarget, hname, hproper, hfits, hnone, rfl⟩ := makeDir_eq_ok h
  obtain ⟨htext, -, hdir, -, -⟩ := target_eq_ok htarget
  obtain ⟨hfull, init, slashes, hbody, hparent, hslashes⟩ := target_last htarget hname
  have hkeeps : Keeps t (t.put (end_.parent ++ [name]) .dir) := .put (by rw [isDir, hnone]; rfl)
  have hthere : (t.put (end_.parent ++ [name]) .dir).isDir (end_.parent ++ [name]) = true := by
    rw [isDir, node?_put_self (by simp)]
    rfl
  have hstep := (step_name_eq_ok hfull hproper).mpr
    ⟨hkeeps.dir _ hdir, hfits, isSome_of_isDir hthere, rfl⟩
  refine isDirAt_iff.mpr ⟨end_.parent ++ [name], locate_eq_ok.mpr ⟨htext, ?_⟩, hthere⟩
  rw [hbody, walk_append, walk_of_keeps hkeeps hparent, ok_bind, walk, List.foldlM_cons, hstep]
  exact walk_slashes hthere hslashes

theorem isDirAt_of_ensureDir (h : (t.ensureDir cwd p).1 = .ok ()) :
    (t.ensureDir cwd p).2.isDirAt cwd p = true := by
  simp only [ensureDir] at h ⊢
  split at h
  · exact isDirAt_of_makeDir ‹_›
  · split at h
    · simp_all
    · cases h

/-- **Directories that were made are there**, but for the empty path, by which nothing is made. -/
theorem isDirAt_of_makeDirs (h : (t.makeDirs cwd p).1 = .ok ()) :
    p = "" ∨ (t.makeDirs cwd p).2.isDirAt cwd p = true := by
  by_cases hp : p = ""
  · exact .inl hp
  · refine .inr ?_
    have hfull : p.isEmpty = false := by rwa [Bool.eq_false_iff, ne_eq, String.isEmpty_iff]
    simp only [FileTree.makeDirs, makeDirsFrom, hfull, Bool.false_eq_true, if_false] at h ⊢
    split at h
    · split at h
      · cases h
      · rename_i parent hparent
        split at h
        · exact isDirAt_of_ensureDir h
        · cases h
    · exact isDirAt_of_ensureDir h

/-! ## Alike in a directory -/

/-- The trees have the same entries at the location and below. -/
def SameBelow (dir : Location) (t t' : FileTree) : Prop :=
  ∀ l, dir <+: l → t.node? l = t'.node? l

/-- The trees have the same entries elsewhere than at the location and below. -/
def SameOutside (dir : Location) (t t' : FileTree) : Prop :=
  ∀ l, ¬dir <+: l → t'.node? l = t.node? l

namespace SameBelow

theorem isDir (h : SameBelow dir t t') (hl : dir <+: l) : t.isDir l = t'.isDir l := by
  rw [FileTree.isDir, FileTree.isDir, h l hl]

theorem put (h : SameBelow dir t t') (l : Location) (node : Node) :
    SameBelow dir (t.put l node) (t'.put l node) := by
  intro m hm
  by_cases heq : m = l
  · subst heq
    by_cases hroot : m = []
    · rw [hroot, node?_root, node?_root]
    · rw [node?_put_self hroot, node?_put_self hroot]
  · rw [node?_put_of_ne heq, node?_put_of_ne heq, h m hm]

theorem remove (dir : Location) (t t' : FileTree) :
    SameBelow dir (t.remove dir) (t'.remove dir) := by
  intro m hm
  by_cases hroot : m = []
  · rw [hroot, node?_root, node?_root]
  · rw [node?_remove_below hm hroot, node?_remove_below hm hroot]

end SameBelow

namespace SameOutside

theorem refl (dir : Location) (t : FileTree) : SameOutside dir t t :=
  fun _ _ => rfl

theorem trans {t'' : FileTree} (h : SameOutside dir t t') (h' : SameOutside dir t' t'') :
    SameOutside dir t t'' :=
  fun l hl => (h' l hl).trans (h l hl)

theorem put (hl : dir <+: l) (t : FileTree) (node : Node) : SameOutside dir t (t.put l node) :=
  fun _ hm => node?_put_of_ne fun heq => hm (heq ▸ hl)

theorem remove (dir : Location) (t : FileTree) : SameOutside dir t (t.remove dir) :=
  fun _ hm => node?_remove hm

end SameOutside

/-- On the trees of a kind, the operation changes nothing but what is in the directory, and it looks
at nothing else. -/
structure LocalOn {α : Type} (kind : FileTree → Prop) (dir : Location)
    (op : FileTree → α × FileTree) : Prop where
  only : ∀ t, kind t → SameOutside dir t (op t).2
  same : ∀ t t', kind t → kind t' → SameBelow dir t t' →
    (op t).1 = (op t').1 ∧ SameBelow dir (op t).2 (op t').2

/-- An operation that puts the same node into trees that are alike, or leaves them. -/
theorem LocalOn.of_cases {α : Type} {kind : FileTree → Prop} {op : FileTree → α × FileTree}
    (h : ∀ t t', kind t → kind t' → SameBelow dir t t' → ∃ r,
      op t = (r, t) ∧ op t' = (r, t')
        ∨ ∃ l node, dir <+: l ∧ op t = (r, t.put l node) ∧ op t' = (r, t'.put l node)) :
    LocalOn kind dir op where
  only t ht := by
    obtain ⟨r, ⟨hop, -⟩ | ⟨l, node, hl, hop, -⟩⟩ := h t t ht ht fun _ _ => rfl
    · rw [hop]
      exact .refl dir t
    · rw [hop]
      exact .put hl t node
  same t t' ht ht' hsame := by
    obtain ⟨r, ⟨hop, hop'⟩ | ⟨l, node, hl, hop, hop'⟩⟩ := h t t' ht ht' hsame
    · rw [hop, hop']
      exact ⟨rfl, hsame⟩
    · rw [hop, hop']
      exact ⟨rfl, hsame.put l node⟩

/-! ## Following a path into the directory -/

theorem step_alike (hsame : SameBelow dir t₁ t₂) (hl : dir <+: l) (segment : String) :
    t₁.step l segment = t₂.step l segment := by
  have hnode := hsame _ (hl.trans (List.prefix_append l [segment]))
  simp only [step, enter, hsame.isDir hl]
  split
  · simp only [ok_bind, hnode]
  · rfl

theorem walk_alike {names : List String} (hsame : SameBelow dir t₁ t₂) (hl : dir <+: l)
    (hdown : ".." ∉ names) : t₁.walk l names = t₂.walk l names := by
  induction names generalizing l with
  | nil => rfl
  | cons segment rest ih =>
      rw [List.mem_cons, not_or] at hdown
      simp only [walk, List.foldlM_cons]
      rw [step_alike hsame hl]
      cases hstep : t₂.step l segment with
      | error fault => rfl
      | ok m =>
          have hnext : l <+: Location.follow l [segment] :=
            Location.prefix_follow fun s hs heq => hdown.1 (heq ▸ (List.mem_singleton.mp hs))
          rw [step_eq_next hstep]
          exact ih (hl.trans hnext) hdown.2

/-- The path `q` leads from where the path `p` does to the names below. -/
structure Leads (p q : Path) (names : List String) : Prop where
  body : q.body = p.body ++ names
  isAbsolute : q.isAbsolute = p.isAbsolute
  down : ".." ∉ names

theorem Leads.refl (p : Path) : Leads p p [] :=
  ⟨(List.append_nil _).symm, rfl, List.not_mem_nil⟩

/-- A name that is joined to a path that leads below is one step further. -/
theorem Leads.join {names : List String} {name : String} (hq : Leads p q names)
    (hlast : q.body.getLast? ≠ some "") (hslash : '/' ∉ name.toList) (hup : name ≠ "..") :
    Leads p (Path.join q name) (names ++ [name]) where
  body := by rw [Path.body_join_name _ hslash, Path.dirBody, if_neg hlast, hq.body,
    List.append_assoc]
  isAbsolute := by rw [Path.isAbsolute_join _ (Path.isAbsolute_of_no_slash hslash), hq.isAbsolute]
  down := by
    rw [List.mem_append, List.mem_singleton, not_or]
    exact ⟨hq.down, hup.symm⟩

theorem Leads.start {names : List String} (hq : Leads p q names) (cwd : Location) :
    start cwd q = start cwd p := by
  rw [FileTree.start, FileTree.start, hq.isAbsolute]

/-- Whether a path that names an entry leads to it depends on nothing but that entry. -/
theorem Names.walk_body (hn : t.Names cwd p loc own) :
    t.walk (start cwd p) p.body =
      if (t.node? (loc ++ [own])).isSome then .ok (loc ++ [own]) else .error .notFound := by
  obtain ⟨init, hbody, hwalk⟩ := hn.body
  have hidle := isIdle_of_isName hn.nonempty hn.proper
  have hup : (own == "..") = false := by simpa using (isName_iff.mp hn.proper).2
  rw [hbody, walk_append, hwalk, ok_bind]
  simp only [walk, List.foldlM_cons, List.foldlM_nil, step, enter, hn.parent_dir, hidle, hup,
    hn.fits, if_true, ok_bind, Bool.false_eq_true, if_false, bind_pure]
  rfl

theorem Names.prefix_of_walk {names : List String} (hn : t.Names cwd p loc own)
    (hdown : ".." ∉ names) (h : t.walk (start cwd p) (p.body ++ names) = .ok l) :
    loc ++ [own] <+: l := by
  rw [walk_append, hn.walk_body] at h
  split at h
  · rw [ok_bind] at h
    rw [walk_eq_follow h]
    exact Location.prefix_follow fun segment hmem heq => hdown (heq ▸ hmem)
  · cases h

section Alike

variable (hn₁ : t₁.Names cwd p loc own) (hn₂ : t₂.Names cwd p loc own)
  (hsame : SameBelow (loc ++ [own]) t₁ t₂)

include hn₁ hn₂ hsame

theorem walk_into {names : List String} (hdown : ".." ∉ names) :
    t₁.walk (start cwd p) (p.body ++ names) = t₂.walk (start cwd p) (p.body ++ names) := by
  rw [walk_append, walk_append, hn₁.walk_body, hn₂.walk_body, hsame _ (List.prefix_refl _)]
  split
  · exact walk_alike hsame (List.prefix_refl _) hdown
  · rfl

theorem isDirAt_alike {names : List String} (hq : Leads p q names) :
    t₁.isDirAt cwd q = t₂.isDirAt cwd q := by
  rw [isDirAt, isDirAt, locate, locate, hq.start, hq.body, walk_into hn₁ hn₂ hsame hq.down]
  cases checkText q with
  | error fault => rfl
  | ok =>
      rw [ok_bind]
      cases hwalk : t₂.walk (start cwd p) (p.body ++ names) with
      | error fault => rfl
      | ok l => exact hsame.isDir (hn₂.prefix_of_walk hq.down hwalk)

/-- What is to be made or written by a path into the directory is an entry in there. -/
theorem target_alike {names : List String} {file : String} (hq : Leads p q (names ++ [file]))
    (hfile : file ≠ "") :
    (∃ fault, t₁.target cwd q = .error fault ∧ t₂.target cwd q = .error fault) ∨
      ∃ parent, loc ++ [own] <+: parent
        ∧ t₁.target cwd q = .ok ⟨parent, some file, false⟩
        ∧ t₂.target cwd q = .ok ⟨parent, some file, false⟩ := by
  have hbody : q.body = (p.body ++ names) ++ [file] := by rw [hq.body, List.append_assoc]
  have hdown : ".." ∉ names := fun hmem => hq.down (List.mem_append_left _ hmem)
  have hwalk := walk_into hn₁ hn₂ hsame hdown
  cases htext : checkText q with
  | error fault =>
      refine .inl ⟨fault, ?_, ?_⟩ <;> rw [target, htext, error_bind]
  | ok =>
      cases hparent : t₂.walk (start cwd p) (p.body ++ names) with
      | error fault =>
          refine .inl ⟨fault, ?_, ?_⟩
          · rw [target_of_walk htext hbody hfile, hq.start, hwalk, hparent, error_bind]
          · rw [target_of_walk htext hbody hfile, hq.start, hparent, error_bind]
      | ok parent =>
          have hin := hn₂.prefix_of_walk hdown hparent
          cases hdir : t₂.isDir parent with
          | true =>
              refine .inr ⟨parent, hin, ?_, ?_⟩
              · exact target_of_body htext hbody hfile (by rw [hq.start, hwalk, hparent])
                  ((hsame.isDir hin).trans hdir)
              · exact target_of_body htext hbody hfile (by rw [hq.start, hparent]) hdir
          | false =>
              refine .inl ⟨.notDirectory, ?_, ?_⟩
              · rw [target_of_walk htext hbody hfile, hq.start, hwalk, hparent, ok_bind, enter,
                  hsame.isDir hin, hdir]
                rfl
              · rw [target_of_walk htext hbody hfile, hq.start, hparent, ok_bind, enter, hdir]
                rfl

end Alike

/-! ## Operations in the directory -/

/-- Writing by a path into the directory. -/
theorem localOn_write {names : List String} {file : String} (hq : Leads p q (names ++ [file]))
    (hfile : file ≠ "") (content : List UInt8) :
    LocalOn (fun t => t.Names cwd p loc own) (loc ++ [own]) fun t =>
      (match t.write cwd q content with
        | .ok t' => (.ok (), t')
        | .error fault => (.error fault, t) : Except IoFault Unit × FileTree) := by
  refine .of_cases fun t₁ t₂ hn₁ hn₂ hsame => ?_
  rcases target_alike hn₁ hn₂ hsame hq hfile with
    ⟨fault, htarget₁, htarget₂⟩ | ⟨parent, hin, htarget₁, htarget₂⟩
  · exact ⟨.error fault, .inl ⟨by simp only [write, htarget₁, error_bind],
      by simp only [write, htarget₂, error_bind]⟩⟩
  · have hpos : loc ++ [own] <+: parent ++ [file] := hin.trans (List.prefix_append _ _)
    simp only [write_of_target htarget₁, write_of_target htarget₂, hsame.isDir hpos]
    cases isName file with
    | false => exact ⟨.error .isDirectory, .inl ⟨rfl, rfl⟩⟩
    | true =>
        cases checkName file with
        | error fault => exact ⟨.error fault, .inl ⟨rfl, rfl⟩⟩
        | ok =>
            cases t₂.isDir (parent ++ [file]) with
            | true => exact ⟨.error .isDirectory, .inl ⟨rfl, rfl⟩⟩
            | false => exact ⟨.ok (), .inr ⟨_, _, hpos, rfl, rfl⟩⟩

/-- Making one directory where the path leads to an entry in the directory, or to itself. -/
theorem ensureDir_alike {parent : Location} {file : String}
    (hsame : SameBelow dir t₁ t₂) (hpos : dir <+: parent ++ [file])
    (htarget₁ : t₁.target cwd q = .ok ⟨parent, some file, false⟩)
    (htarget₂ : t₂.target cwd q = .ok ⟨parent, some file, false⟩)
    (hthere : t₁.isDirAt cwd q = t₂.isDirAt cwd q) :
    ∃ r, t₁.ensureDir cwd q = (r, t₁) ∧ t₂.ensureDir cwd q = (r, t₂)
      ∨ ∃ l node, dir <+: l ∧ t₁.ensureDir cwd q = (r, t₁.put l node)
        ∧ t₂.ensureDir cwd q = (r, t₂.put l node) := by
  have hnode := hsame _ hpos
  simp only [ensureDir, makeDir_of_target htarget₁, makeDir_of_target htarget₂, hnode, hthere]
  have hstay : ∀ fault, ∃ r : Except IoFault Unit,
      (if t₂.isDirAt cwd q then (.ok (), t₁) else (.error fault, t₁)) = (r, t₁)
        ∧ (if t₂.isDirAt cwd q then (.ok (), t₂) else (.error fault, t₂)) = (r, t₂) := by
    intro fault
    cases t₂.isDirAt cwd q with
    | true => exact ⟨_, rfl, rfl⟩
    | false => exact ⟨_, rfl, rfl⟩
  cases isName file with
  | false =>
      obtain ⟨r, hr⟩ := hstay .alreadyExists
      exact ⟨r, .inl hr⟩
  | true =>
      cases checkName file with
      | error fault =>
          obtain ⟨r, hr⟩ := hstay fault
          exact ⟨r, .inl hr⟩
      | ok =>
          cases hsome : (t₂.node? (parent ++ [file])).isSome with
          | true =>
              obtain ⟨r, hr⟩ := hstay .alreadyExists
              refine ⟨r, .inl ?_⟩
              simpa [hsome] using hr
          | false => exact ⟨.ok (), .inr ⟨_, .dir, hpos, by simp, by simp⟩⟩

/-- Making one directory by a path into the directory. -/
theorem localOn_ensureDir {names : List String} {file : String}
    (hq : Leads p q (names ++ [file])) (hfile : file ≠ "") :
    LocalOn (fun t => t.Names cwd p loc own) (loc ++ [own]) (·.ensureDir cwd q) := by
  refine .of_cases fun t₁ t₂ hn₁ hn₂ hsame => ?_
  have hthere := isDirAt_alike hn₁ hn₂ hsame hq
  rcases target_alike hn₁ hn₂ hsame hq hfile with
    ⟨fault, htarget₁, htarget₂⟩ | ⟨parent, hin, htarget₁, htarget₂⟩
  · simp only [ensureDir, makeDir, htarget₁, htarget₂, error_bind, hthere]
    cases t₂.isDirAt cwd q with
    | true => exact ⟨_, .inl ⟨rfl, rfl⟩⟩
    | false => exact ⟨_, .inl ⟨rfl, rfl⟩⟩
  · exact ensureDir_alike hsame (hin.trans (List.prefix_append _ _)) htarget₁ htarget₂ hthere

/-- Making the directory itself. -/
theorem localOn_ensureDir_self :
    LocalOn (fun t => t.Names cwd p loc own) (loc ++ [own]) (·.ensureDir cwd p) :=
  .of_cases fun _ _ hn₁ hn₂ hsame => ensureDir_alike hsame (List.prefix_refl _) hn₁.target
    hn₂.target (isDirAt_alike hn₁ hn₂ hsame (.refl p))

/-! ## Directories with their parents -/

/-- A directory that is not made leaves the tree. -/
theorem ensureDir_of_error {fault : IoFault} (h : (t.ensureDir cwd p).1 = .error fault) :
    t.ensureDir cwd p = (.error fault, t) := by
  simp only [ensureDir] at h ⊢
  split at h
  · cases h
  · split at h
    · cases h
    · rename_i hthere
      simp only [hthere]
      exact Prod.ext h rfl

/-- Where the parent is there, making the directory fails for no want of one. -/
theorem Names.ensureDir_ne (hn : t.Names cwd p loc own) :
    (t.ensureDir cwd p).1 ≠ .error .notFound := by
  simp only [ensureDir, makeDir_of_target hn.target, hn.proper, hn.fits, ok_bind]
  cases hsome : (t.node? (loc ++ [own])).isSome with
  | true => cases t.isDirAt cwd p <;> simp
  | false => simp

/-- So no parent is looked for. -/
theorem Names.makeDirsFrom_eq (hn : t.Names cwd p loc own) (fuel : Nat) :
    t.makeDirsFrom cwd p (fuel + 1) = t.ensureDir cwd p := by
  have hp : p.isEmpty = false := by
    rw [Bool.eq_false_iff, ne_eq, String.isEmpty_iff]
    exact (checkText_eq_ok.mp hn.text).2.2
  have hfound := hn.ensureDir_ne
  rw [makeDirsFrom, hp, if_neg Bool.false_ne_true]
  split
  · rename_i heq
    rw [heq] at hfound
    exact absurd rfl hfound
  · rfl

/-- Makes a directory once its parent has been made. -/
def ensureBelow (cwd : Location) (q : Path) :
    Except IoFault Unit × FileTree → Except IoFault Unit × FileTree
  | (.ok (), t) => t.ensureDir cwd q
  | (.error fault, t) => (.error fault, t)

/-- Makes a directory once more with its parent, if the parent was missing. -/
def ensureWith (cwd : Location) (p q : Path) :
    Except IoFault Unit × FileTree → Except IoFault Unit × FileTree
  | (.error (.os 2), t) => ensureBelow cwd q (t.ensureDir cwd p)
  | result => result

/-- The parent of the directory may have to be made first, but not the parent of that. -/
theorem makeDirs_of_parent? (hn : t.Names cwd p loc own) (hq : q ≠ "")
    (hparent : q.parent? = some p) :
    t.makeDirs cwd q = ensureWith cwd p q (t.ensureDir cwd q) := by
  have hfull : q.isEmpty = false := by rwa [Bool.eq_false_iff, ne_eq, String.isEmpty_iff]
  rw [FileTree.makeDirs, makeDirsFrom, hfull, if_neg Bool.false_ne_true, hparent]
  dsimp only
  rw [hn.makeDirsFrom_eq]
  split
  · rename_i t' hmade
    have hsame := ensureDir_of_error (congrArg Prod.fst hmade)
    rw [hmade] at hsame
    obtain rfl : t' = t := congrArg Prod.snd hsame
    rw [hmade, ensureWith]
    rcases t'.ensureDir cwd p with ⟨fault | ⟨⟩, t''⟩ <;> rfl
  · rw [ensureWith]
    exact fun t' => ‹∀ t', t.ensureDir cwd q = (.error (.os 2), t') → False› t'

/-- Removing what the path leads to. -/
theorem localOn_remove :
    LocalOn (fun t => t.Names cwd p loc own) (loc ++ [own]) fun t =>
      ((), match t.locate cwd p with
        | .ok l => t.remove l
        | .error _ => t) := by
  have hlocate : ∀ t : FileTree, t.Names cwd p loc own → t.locate cwd p =
      if (t.node? (loc ++ [own])).isSome then .ok (loc ++ [own]) else .error .notFound := by
    intro t hn
    rw [locate, hn.text, ok_bind, hn.walk_body]
  constructor
  · intro t hn
    dsimp only
    rw [hlocate t hn]
    cases (t.node? (loc ++ [own])).isSome with
    | true => exact .remove _ t
    | false => exact .refl _ t
  · intro t t' hn hn' hsame
    dsimp only
    rw [hlocate t hn, hlocate t' hn', hsame _ (List.prefix_refl _)]
    cases (t'.node? (loc ++ [own])).isSome with
    | true => exact ⟨rfl, .remove _ t t'⟩
    | false => exact ⟨rfl, hsame⟩

namespace LocalOn

variable {kind : FileTree → Prop} {α β : Type}

theorem pure (x : α) : LocalOn kind dir fun t => (x, t) where
  only t _ := .refl dir t
  same _ _ _ _ hsame := ⟨rfl, hsame⟩

/-- One operation after the other, where the first one leaves a tree of the same kind. -/
theorem andThen {first : FileTree → α × FileTree} (next : α × FileTree → β × FileTree)
    (h : LocalOn kind dir first) (hkind : ∀ t, kind t → kind (first t).2)
    (hnext : ∀ x, LocalOn kind dir fun t => next (x, t)) :
    LocalOn kind dir fun t => next (first t) where
  only t ht := (h.only t ht).trans ((hnext _).only _ (hkind t ht))
  same t t' ht ht' hsame := by
    obtain ⟨hresult, hafter⟩ := h.same t t' ht ht' hsame
    have hright : first t' = ((first t).1, (first t').2) := Prod.ext hresult.symm rfl
    rw [hright]
    exact (hnext (first t).1).same _ _ (hkind t ht) (hkind t' ht') hafter

theorem congr {op op' : FileTree → α × FileTree} (h : LocalOn kind dir op)
    (heq : ∀ t, kind t → op' t = op t) : LocalOn kind dir op' where
  only t ht := by
    rw [heq t ht]
    exact h.only t ht
  same t t' ht ht' hsame := by
    rw [heq t ht, heq t' ht']
    exact h.same t t' ht ht' hsame

end LocalOn

theorem names_ensureDir (t : FileTree) (hn : t.Names cwd p loc own) (q : Path) :
    (t.ensureDir cwd q).2.Names cwd p loc own := by
  refine hn.mono (.of_nodes fun l node hl => ?_)
  exact rel_ensureDir (R := fun t t' => t.node? l = some node → t'.node? l = some node)
    (fun _ h => h) node?_makeDir hl

theorem localOn_makeDirs_self :
    LocalOn (fun t => t.Names cwd p loc own) (loc ++ [own]) (·.makeDirs cwd p) :=
  localOn_ensureDir_self.congr fun _ hn => hn.makeDirsFrom_eq _

/-- Making a directory in the directory, with that one if it is missing. -/
theorem localOn_makeDirs {name : String} (hq : Leads p q [name]) (hname : name ≠ "")
    (hfull : q ≠ "") (hparent : q.parent? = some p) :
    LocalOn (fun t => t.Names cwd p loc own) (loc ++ [own]) (·.makeDirs cwd q) := by
  have hmake : LocalOn (fun t => t.Names cwd p loc own) (loc ++ [own]) (·.ensureDir cwd q) :=
    localOn_ensureDir (show Leads p q ([] ++ [name]) from hq) hname
  have hbelow : ∀ r, LocalOn (fun t => t.Names cwd p loc own) (loc ++ [own])
      fun t => ensureBelow cwd q (r, t) := by
    rintro (fault | ⟨⟩)
    · exact .pure _
    · exact hmake
  have hwith : ∀ r, LocalOn (fun t => t.Names cwd p loc own) (loc ++ [own])
      fun t => ensureWith cwd p q (r, t) := by
    intro r
    by_cases hr : r = .error .notFound
    · subst hr
      exact localOn_ensureDir_self.andThen _ (fun t hn => names_ensureDir t hn p) hbelow
    · refine (LocalOn.pure r).congr fun t _ => ?_
      rw [ensureWith]
      exact fun t' heq => hr (congrArg Prod.fst heq)
  exact (hmake.andThen _ (fun t hn => names_ensureDir t hn q) hwith).congr
    fun t hn => makeDirs_of_parent? hn hfull hparent

end GrammarBench.FileTree
