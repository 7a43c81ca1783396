import GrammarBench.Proofs.Staging.Contents

/-!
# Operations on an area

The operations by which a run fills its area, each as a change of the tree that the area is seen to
be. There are two kinds of them: a directory is made, or a file is written, and either by an
ordinary path. `AreaOp.Ends` says how an operation ends; that it ends so is proved for one operation
(`AreaOp.ends_run`) and from there for those that follow each other (`Filled.fill`). Main statement:
what an area is after any operations, while it is in use and once it is given up: all of it is gone
then, unless it is to be kept (`StagingArea.fill_behavesAs`).
-/

namespace GrammarBench

/-- No limit of the operating system stands against the path when it is seen from the directory. -/
structure Path.FitsBelow (base p : Path) : Prop where
  text : FileTree.checkText (Path.join base p) = .ok ()
  names : ∀ name ∈ p.names, FileTree.checkName name = .ok ()

namespace Contents

variable {c : Contents} {init : List String} {name : String} {entry : Option Node}

theorem clashes_dir : Clashes entry .dir ↔ FileTree.IsFile entry := by
  rcases entry with _ | _ | _ <;> exact Iff.rfl

theorem clashes_file {content : List UInt8} :
    Clashes entry (.file content) ↔ entry = some .dir := by
  rcases entry with _ | _ | _ <;> simp [Clashes]

theorem fileAbove_concat :
    c.FileAbove (init ++ [name]) ↔ c.FileAbove init ∨ FileTree.IsFile (c init) := by
  constructor
  · rintro ⟨above, habove, hne, hfile⟩
    have hinit := (List.prefix_concat_iff.mp habove).resolve_left hne
    by_cases heq : above = init
    · exact .inr (heq ▸ hfile)
    · exact .inl ⟨above, hinit, heq, hfile⟩
  · have hlonger : ∀ {above : List String}, above <+: init → above ≠ init ++ [name] := by
      rintro above habove rfl
      have hlength := habove.length_le
      rw [List.length_append, List.length_singleton] at hlength
      omega
    rintro (⟨above, habove, -, hfile⟩ | hfile)
    · exact ⟨above, habove.trans (List.prefix_append _ _), hlonger habove, hfile⟩
    · exact ⟨init, List.prefix_append _ _, hlonger (List.prefix_refl _), hfile⟩

/-- Above an entry of the area itself there is only the area. -/
theorem prefix_singleton {names : List String} (h : names <+: [name]) (hne : names ≠ [name]) :
    names = [] := by
  rcases List.prefix_cons_iff.mp h with hnil | ⟨rest, rfl, hrest⟩
  · exact hnil
  · rw [List.prefix_nil.mp hrest] at hne
    exact absurd rfl hne

theorem not_fileAbove_singleton (hroot : c [] = some .dir) : ¬c.FileAbove [name] := by
  rintro ⟨above, habove, hne, hfile⟩
  rw [prefix_singleton habove hne, hroot] at hfile
  exact hfile

theorem hold_singleton (hroot : c [] = some .dir) (node : Node) (names : List String) :
    c.hold [name] node names = if names = [name] then some node else c names := by
  unfold hold
  split
  · rfl
  · rename_i hne
    split
    · rename_i habove
      rw [prefix_singleton habove hne, hroot]
      rfl
    · rfl

end Contents

namespace StagingArea

variable {a : StagingArea} {s s' : Host} {dir : Location} {c : Contents} {p : Path}

/-- How an operation ends that puts a node at some names of the area: it is done, or nothing was
changed at all. -/
inductive Puts (dir : Location) (c : Contents) (names : List String) (node : Node) (path : Path)
    (s : Host) : Except Failure Path × Host → Prop
  | done {t : FileTree} (h : ¬c.Refuses names node)
      (htree : FileTree.Becomes dir s.tree t (c.hold names node)) :
      Puts dir c names node path s (.ok path, { s with tree := t })
  | refused (f : Failure) (h : c.Refuses names node) : Puts dir c names node path s (.error f, s)

theorem StandsAt.leadsFrom (h : a.StandsAt s dir) (hp : p.IsOrdinary)
    (hfits : Path.FitsBelow a.path p) :
    s.tree.LeadsFrom s.cwd dir (Path.join a.path p) p.segments where
  text := hfits.text
  base := by
    obtain ⟨own, hlast, hne, hown⟩ := h.last
    have hbody : a.path.dirBody = a.path.body := by
      rw [Path.dirBody, hlast, if_neg (by simpa using hne)]
    refine ⟨a.path.body, own, by rw [Path.body_join _ hp.relative, hbody], hlast, hown, ?_⟩
    rw [FileTree.start, Path.isAbsolute_join _ hp.relative]
    exact (FileTree.locate_eq_ok.mp h.locate).2
  dir := h.dir
  down := hp.down
  fits segment hmem := by
    by_cases hidle : Path.isIdle segment = true
    · simp only [Path.isIdle, Bool.or_eq_true, beq_iff_eq] at hidle
      rcases hidle with rfl | rfl <;> rfl
    · exact hfits.names segment (List.mem_filter.mpr ⟨hmem, by simp [hidle]⟩)

theorem runOn_subdir (a : StagingArea) (p : Path) (s : Host) :
    (a.subdir p).runOn s =
      match s.tree.makeDirs s.cwd (Path.join a.path p) with
      | (.ok (), t) => (.ok (Path.join a.path p), { s with tree := t })
      | (.error fault, t) => (.error (.io fault), { s with tree := t }) := by
  unfold subdir
  dsimp only
  rw [runOn_bind, Host.runOn_makeDirs]
  rcases s.tree.makeDirs s.cwd (Path.join a.path p) with ⟨fault | ⟨⟩, t⟩ <;> rfl

theorem runOn_writeFile {parent : Path} (hparent : (Path.join a.path p).parent? = some parent)
    (text : String) (s : Host) :
    (a.writeFile p text).runOn s =
      match s.tree.makeDirs s.cwd parent with
      | (.error fault, t) => (.error (.io fault), { s with tree := t })
      | (.ok (), t) =>
        match t.write s.cwd (Path.join a.path p) (Text.utf8 text) with
        | .error fault => (.error (.io fault), { s with tree := t })
        | .ok t' => (.ok (Path.join a.path p), { s with tree := t' }) := by
  unfold writeFile
  simp only [hparent]
  rw [runOn_bind, Host.runOn_makeDirs]
  rcases s.tree.makeDirs s.cwd parent with ⟨fault | ⟨⟩, t⟩
  · rfl
  · dsimp only [Except.mapError]
    rw [runOn_bind, Host.runOn_writeText]
    dsimp only
    cases t.write s.cwd (Path.join a.path p) (Text.utf8 text) <;> rfl

section Ordinary

variable (hs : s.tree.Sound) (hstands : a.StandsAt s dir) (hc : s.tree.Shows dir c)
  (hp : p.IsOrdinary) (hfits : Path.FitsBelow a.path p)

include hs hstands hc hp hfits

/-- Making a directory of the area. -/
theorem puts_subdir :
    Puts dir c p.names .dir (Path.join a.path p) s ((a.subdir p).runOn s) := by
  have hends : FileTree.EndsInName p.segments := by
    obtain ⟨init, name, hsegments, hname⟩ := hp.last
    intro last hlast
    rw [hsegments, List.getLast?_concat] at hlast
    exact Option.some.inj hlast ▸ hname
  have hmakes := (hstands.leadsFrom hp hfits).makes hs hends
  rw [Location.follow_eq_append hp.down, ← Path.names] at hmakes
  have hfile : s.tree.FileOn (dir ++ p.names) ↔ _ := FileTree.fileOn_iff hs hstands.dir hc
  rw [← Contents.clashes_dir] at hfile
  rw [runOn_subdir]
  generalize s.tree.makeDirs s.cwd (Path.join a.path p) = r at hmakes ⊢
  cases hmakes with
  | made hno hadds => exact .done (fun h => hno (hfile.mpr h)) (hadds.becomes hs hstands.dir hc hno)
  | blocked fault h => exact .refused _ (hfile.mp h)

/-- Writing a file of the area. -/
theorem puts_writeFile (text : String) :
    Puts dir c p.names (.file (Text.utf8 text)) (Path.join a.path p) s
      ((a.writeFile p text).runOn s) := by
  obtain ⟨init, name, hsegments, hname, hinit, hnames⟩ := hp.exists_parent
  have hleads := hstands.leadsFrom hp hfits
  rw [hsegments] at hleads
  obtain ⟨parent, hparent, hup, hsame⟩ := hleads.parent? hname
  have hfollow : Location.follow dir init = dir ++ init.filter (!Path.isIdle ·) :=
    Location.follow_eq_append hinit
  generalize init.filter (!Path.isIdle ·) = front at hnames hfollow
  rw [hfollow] at hsame
  have habove : c.FileAbove (front ++ [name]) ↔ s.tree.FileOn (dir ++ front) := by
    rw [Contents.fileAbove_concat, FileTree.fileOn_iff hs hstands.dir hc]
  rw [hnames, runOn_writeFile hparent]
  by_cases hthere : c (front ++ [name]) = some .dir
  · have hdir : s.tree.isDir (dir ++ front ++ [name]) = true := by
      rw [FileTree.isDir, List.append_assoc, hc, hthere]
      rfl
    obtain ⟨hkept, hwrite⟩ := hleads.write_of_isDir hname hs hparent (hfollow ▸ hdir)
      (Text.utf8 text)
    rw [hkept]
    dsimp only
    rw [hwrite]
    exact .refused _ (.inr (Contents.clashes_file.mpr hthere))
  · have hmakes := hup.makes hs (FileTree.endsInName_rdropWhile init)
    rw [hsame] at hmakes
    generalize s.tree.makeDirs s.cwd parent = r at hmakes ⊢
    cases hmakes with
    | @made t₁ hno hadds =>
        have hbecomes := hadds.becomes hs hstands.dir hc hno
        have hdir : t₁.isDir (dir ++ front) = true := hadds.isDir hno (List.prefix_refl _)
        have hclear : t₁.isDir (dir ++ (front ++ [name])) = false := by
          rw [FileTree.isDir, hbecomes.shows, Contents.hold]
          simpa [List.prefix_iff_eq_append] using hthere
        dsimp only
        rw [(hleads.of_keeps hadds.keeps).write_eq hname hbecomes.sound (hfollow ▸ hdir), hfollow,
          List.append_assoc, hclear, if_neg Bool.false_ne_true]
        refine .done ?_ (hbecomes.put_file (fun hfile => hno ?_) hclear)
        · rintro (h | h)
          · exact hno (habove.mp h)
          · exact hthere (Contents.clashes_file.mp h)
        · exact (FileTree.fileOn_iff hs hstands.dir hc).mpr (.inr hfile)
    | blocked fault h => exact .refused _ (.inl (habove.mpr h))

end Ordinary

end StagingArea

/-! ## The operations -/

/-- An operation by which an area is filled. -/
inductive AreaOp where
  | subdir (p : Path)
  | writeFile (p : Path) (content : String)
  | stageInput (input : String)
  | writeDriver (spec : DriverSpec) (kind : BackendKind)
  | outputDir (kind : BackendKind)

namespace AreaOp

variable {a : StagingArea} {s s' s₀ : Host} {root : Path} {loc dir : Location} {own : String}
  {c : Contents} {op : AreaOp}

def run (a : StagingArea) : AreaOp → HostAction Path
  | subdir p => a.subdir p
  | writeFile p content => a.writeFile p content
  | stageInput input => a.stageInput input
  | writeDriver spec kind => a.writeDriver spec kind
  | outputDir kind => a.outputDir kind

/-- The path that the operation is about, seen from the area; there is none if that is the area. -/
def relative? : AreaOp → Option Path
  | subdir p => some p
  | writeFile p _ => some p
  | stageInput _ => some inputFile
  | writeDriver spec kind => some (Driver.Template.select spec kind).fileName
  | outputDir .process => none
  | outputDir .browser => some Driver.pageGrammarDir

/-- What the operation puts there, unless it is a driver that cannot be rendered. -/
def node? : AreaOp → Option Node
  | subdir _ => some .dir
  | writeFile _ content => some (.file (Text.utf8 content))
  | stageInput input => some (.file (Text.utf8 input))
  | writeDriver spec kind =>
    match Driver.render spec kind with
    | .ok text => some (.file (Text.utf8 text))
    | .error _ => none
  | outputDir _ => some .dir

def names (op : AreaOp) : List String :=
  match op.relative? with
  | some p => p.names
  | none => []

/-- The path that the operation gives. -/
def path (a : StagingArea) (op : AreaOp) : Path :=
  match op.relative? with
  | some p => Path.join a.path p
  | none => a.path

/-- The path is an ordinary one, and nothing is wrong with it for the operating system. -/
def Fits (a : StagingArea) (op : AreaOp) : Prop :=
  ∀ p, op.relative? = some p → p.IsOrdinary ∧ Path.FitsBelow a.path p

/-- Any names will do that could be those of entries. -/
theorem fits_of_names {names : List String} (hne : names ≠ [])
    (hrelative : op.relative? = some ("/".intercalate names))
    (hnames : ∀ name ∈ names, '/' ∉ name.toList ∧ Path.isIdle name = false ∧ name ≠ "..")
    (hlimit : ∀ name ∈ names, FileTree.checkName name = .ok ())
    (htext : FileTree.checkText (op.path a) = .ok ()) : op.Fits a ∧ op.names = names := by
  obtain ⟨hordinary, hsame⟩ := Path.isOrdinary_intercalate hne hnames
  refine ⟨fun p hp => ?_, by rw [AreaOp.names, hrelative]; exact hsame⟩
  obtain rfl := Option.some.inj (hrelative.symm.trans hp)
  refine ⟨hordinary, ⟨?_, by rwa [hsame]⟩⟩
  rwa [path, hrelative] at htext

/-- The operation cannot be done on an area with these contents. -/
def Refused (c : Contents) (op : AreaOp) : Prop :=
  match op.node? with
  | some node => c.Refuses op.names node
  | none => True

instance (c : Contents) (op : AreaOp) : Decidable (op.Refused c) := by
  unfold Refused
  split <;> infer_instance

/-- The contents after the operation. -/
def after (c : Contents) (op : AreaOp) : Contents :=
  match op.node? with
  | some node => if op.Refused c then c else c.hold op.names node
  | none => c

/-- How an operation ends: it is done and gives its path, or nothing was changed at all. -/
inductive Ends (a : StagingArea) (dir : Location) (c : Contents) (op : AreaOp) (s : Host) :
    Except Failure Path × Host → Prop
  | done {t : FileTree} (h : ¬op.Refused c) (htree : FileTree.Becomes dir s.tree t (op.after c)) :
      Ends a dir c op s (.ok (op.path a), { s with tree := t })
  | refused (f : Failure) (h : op.Refused c) : Ends a dir c op s (.error f, s)

theorem Ends.of_puts {node : Node} {r : Except Failure Path × Host} (hnode : op.node? = some node)
    (h : StagingArea.Puts dir c op.names node (op.path a) s r) : Ends a dir c op s r := by
  have hrefused : op.Refused c ↔ c.Refuses op.names node := by rw [Refused, hnode]
  cases h with
  | done h htree =>
      refine .done (fun hno => h (hrefused.mp hno)) ?_
      rw [after, hnode]
      dsimp only
      rwa [if_neg fun hno => h (hrefused.mp hno)]
  | refused f h => exact .refused f (hrefused.mpr h)

/-- **An operation does to the area what it does to the tree of the area**, and is refused exactly
where it cannot be done there. -/
theorem ends_run (hs : s.tree.Sound) (hstands : a.StandsAt s dir) (hc : s.tree.Shows dir c)
    (hfits : op.Fits a) : Ends a dir c op s ((op.run a).runOn s) := by
  have hfile : ∀ p text, p.IsOrdinary ∧ Path.FitsBelow a.path p →
      StagingArea.Puts dir c p.names (.file (Text.utf8 text)) (Path.join a.path p) s
        ((a.writeFile p text).runOn s) :=
    fun p text hp => StagingArea.puts_writeFile hs hstands hc hp.1 hp.2 text
  have hdir : ∀ p, p.IsOrdinary ∧ Path.FitsBelow a.path p →
      StagingArea.Puts dir c p.names .dir (Path.join a.path p) s ((a.subdir p).runOn s) :=
    fun p hp => StagingArea.puts_subdir hs hstands hc hp.1 hp.2
  cases op with
  | subdir p => exact .of_puts rfl (hdir p (hfits p rfl))
  | writeFile p content => exact .of_puts rfl (hfile p content (hfits p rfl))
  | stageInput input => exact .of_puts rfl (hfile inputFile input (hfits _ rfl))
  | writeDriver spec kind =>
      rw [run, StagingArea.runOn_writeDriver]
      cases hrender : Driver.render spec kind with
      | ok text => exact .of_puts (by rw [node?, hrender]) (hfile _ text (hfits _ rfl))
      | error f => exact .refused f (by simp only [Refused, node?, hrender])
  | outputDir kind =>
      cases kind with
      | browser => exact .of_puts rfl (hdir Driver.pageGrammarDir (hfits _ rfl))
      | process =>
          -- the area is there, so there is nothing to be done
          have hroot := FileTree.shown_root hstands.dir hc
          have hsame : c.hold [] .dir = c := by
            refine Contents.hold_of_eq hroot fun above habove => ?_
            rw [List.prefix_nil.mp habove, hroot]
            rfl
          refine .of_puts rfl (.done ?_ (hsame.symm ▸ .refl hs hc))
          rintro (⟨above, habove, hne, -⟩ | hclash)
          · exact hne (List.prefix_nil.mp habove)
          · rw [names, relative?, hroot] at hclash
            exact hclash

end AreaOp

/-! ## One operation after the other -/

/-- The host after some operations, each whatever became of those before it. -/
def StagingArea.fill (a : StagingArea) (s : Host) (ops : List AreaOp) : Host :=
  ops.foldl (fun s op => ((op.run a).runOn s).2) s

/-- The contents after some operations. -/
def Contents.afterAll (c : Contents) (ops : List AreaOp) : Contents :=
  ops.foldl AreaOp.after c

namespace StagingArea

variable {a : StagingArea} {s s' s₀ s₁ : Host} {root : Path} {loc dir : Location} {own : String}
  {c : Contents} {keep : Bool}

/-- The area is in use and shows these contents. -/
structure Filled (a : StagingArea) (root : Path) (loc : Location) (own : String) (s₀ s : Host)
    (c : Contents) : Prop where
  inUse : a.InUse root loc own s₀ s
  sound : s.tree.Sound
  shows : s.tree.Shows (loc ++ [own]) c

/-- An area begins with nothing in it. -/
theorem filled_of_create (hs : s.tree.Sound) (h : (create root keep).runOn s = (.ok a, s₁)) :
    a.keep = keep ∧ ∃ loc own, a.Filled root loc own (withRoot s root) s₁ .empty := by
  have hroot : (withRoot s root).tree.Sound := hs.makeDirs
  rcases create_cases root keep s with
    ⟨f, serial, hrun⟩ | ⟨made, loc, own, serial, hkeep, hnew, hrun⟩
  · rw [hrun] at h
    cases h
  · rw [hrun] at h
    cases h
    refine ⟨hkeep, loc, own, hnew.inUse serial, hroot.put_dir hnew.names.parent_dir hnew.absent,
      fun names => ?_⟩
    unfold Contents.empty
    cases names with
    | nil =>
        rw [List.append_nil, FileTree.node?_put_self (by simp)]
        rfl
    | cons name rest =>
        have hne : loc ++ [own] ++ name :: rest ≠ loc ++ [own] := by simp
        rw [FileTree.node?_put_of_ne hne, if_neg (List.cons_ne_nil name rest)]
        by_contra hsome
        have habove := hroot.isSome_of_prefix (Option.isSome_iff_ne_none.mpr hsome)
        rw [hnew.absent] at habove
        cases habove

namespace Filled

theorem ends (h : a.Filled root loc own s₀ s c) {op : AreaOp} (hfits : op.Fits a) :
    AreaOp.Ends a (loc ++ [own]) c op s ((op.run a).runOn s) :=
  AreaOp.ends_run h.sound h.inUse.standsAt h.shows hfits

/-- One operation. -/
theorem step (h : a.Filled root loc own s₀ s c) {op : AreaOp} (hfits : op.Fits a) :
    a.Filled root loc own s₀ ((op.run a).runOn s).2 (op.after c)
      ∧ FileTree.SameOutside (loc ++ [own]) s.tree ((op.run a).runOn s).2.tree := by
  have hends := h.ends hfits
  generalize (op.run a).runOn s = r at hends ⊢
  cases hends with
  | @done t hno htree =>
      refine ⟨⟨h.inUse.of_steady ⟨rfl, htree.keeps, fun l hl => ?_⟩, htree.sound, htree.shows⟩,
        htree.outside⟩
      rw [FileTree.isDir, FileTree.isDir, htree.outside l hl]
  | refused f hrefused =>
      have hsame : op.after c = c := by
        unfold AreaOp.after
        split
        · rw [if_pos hrefused]
        · rfl
      exact ⟨hsame.symm ▸ h, .refl _ _⟩

/-- Any number of operations. -/
theorem fill (h : a.Filled root loc own s₀ s c) {ops : List AreaOp}
    (hfits : ∀ op ∈ ops, op.Fits a) :
    a.Filled root loc own s₀ (a.fill s ops) (c.afterAll ops)
      ∧ FileTree.SameOutside (loc ++ [own]) s.tree (a.fill s ops).tree := by
  induction ops generalizing s c with
  | nil => exact ⟨h, .refl _ _⟩
  | cons op ops ih =>
      rw [List.forall_mem_cons] at hfits
      obtain ⟨hfirst, houtside⟩ := h.step hfits.1
      obtain ⟨hrest, houtside'⟩ := ih hfirst hfits.2
      exact ⟨hrest, houtside.trans houtside'⟩

end Filled

/-! ## The end of an area -/

/-- The area is seen to be a tree with these contents, and to be one until it is given up. -/
structure BehavesAs (a : StagingArea) (dir : Location) (s : Host) (c : Contents) : Prop where
  locate : s.tree.locate s.cwd a.path = .ok dir
  shows : s.tree.Shows dir c
  next : ∀ op : AreaOp, op.Fits a → op.Ends a dir c s ((op.run a).runOn s)
  /-- When it is given up, the directory is there if the area is to be kept, with all that is in it,
  and otherwise nothing of it is. Nothing else changes. -/
  dropped : ∃ s', a.close.runOn s = (.ok (), s')
    ∧ (s'.tree.isDirAt s'.cwd a.path = true ↔ a.keep = true)
    ∧ (a.keep = true → s'.tree.Shows dir c)
    ∧ (a.keep = false → ∀ names, s'.tree.node? (dir ++ names) = none)
    ∧ FileTree.SameOutside dir s.tree s'.tree
  /-- It can be left behind whether it was to be kept or not. -/
  persisted : ∃ s', a.persist.runOn s = (.ok a.path, s')
    ∧ s'.tree.isDirAt s'.cwd a.path = true ∧ s'.tree = s.tree

namespace Filled

variable (h : a.Filled root loc own s₀ s c)

include h

theorem isDirAt_of_tree {s' : Host} (hcwd : s'.cwd = s.cwd) (htree : s'.tree = s.tree) :
    s'.tree.isDirAt s'.cwd a.path = true := by
  rw [hcwd, htree]
  exact h.inUse.standsAt.isDirAt

/-- An area that was removed is not found any more. -/
theorem isDirAt_closed (hkeep : a.keep = false) :
    (a.closed s).tree.isDirAt (a.closed s).cwd a.path = false := by
  have hroot := h.inUse.isRoot_closed hkeep
  have hpath : a.path = Path.join ((a.closed s).rootPath root) own := by
    rw [h.inUse.new.path, Host.rootPath_of_cwd (cwd_closed a s), h.inUse.rootPath]
  have hnames := h.inUse.new.names
  rw [hpath] at hnames
  have hthere := hroot.names h.inUse.new.noSlash hnames
  have hgone : (a.closed s).tree.node? (loc ++ [own]) = none := by
    rw [h.inUse.closed_eq hkeep]
    exact FileTree.node?_remove_self (by simp)
  have hlocate : (a.closed s).tree.locate (a.closed s).cwd a.path = .error .notFound := by
    rw [hpath, FileTree.locate, hthere.text, ok_bind, hthere.walk_body, hgone]
    rfl
  rw [FileTree.isDirAt, hlocate]

theorem behavesAs : a.BehavesAs (loc ++ [own]) s c where
  locate := h.inUse.standsAt.locate
  shows := h.shows
  next _ hfits := h.ends hfits
  dropped := by
    refine ⟨a.closed s, runOn_close a s, ?_⟩
    cases hkeep : a.keep with
    | true =>
        have htree : (a.closed s).tree = s.tree := by
          rw [closed, if_pos hkeep]
          rfl
        refine ⟨iff_of_true (h.isDirAt_of_tree (cwd_closed a s) htree) rfl,
          fun _ => htree ▸ h.shows, fun hno => absurd hno (by simp), ?_⟩
        rw [htree]
        exact .refl _ _
    | false =>
        refine ⟨by simp [h.isDirAt_closed hkeep], fun hno => absurd hno (by simp),
          fun _ names => ?_,
          ?_⟩
        · rw [h.inUse.closed_eq hkeep]
          exact FileTree.node?_remove_below (List.prefix_append _ _) (by simp)
        · rw [h.inUse.closed_eq hkeep]
          exact .remove _ _
  persisted := by
    have hrun : a.persist.runOn s = (.ok a.path, closed { a with keep := true } s) := by
      rw [persist, runOn_bind, runOn_close]
      rfl
    have htree : (closed { a with keep := true } s).tree = s.tree := rfl
    exact ⟨_, hrun, h.isDirAt_of_tree (cwd_closed _ s) htree, htree⟩

end Filled

/-- **An area is a tree of directories and files.** After any operations by ordinary paths, it holds
what they put there one after another, and so it is when it is kept or left behind; when it is
removed, all of it is gone. Elsewhere nothing changes. -/
theorem fill_behavesAs (hs : s.tree.Sound) (hcreate : (create root keep).runOn s = (.ok a, s₁)) :
    a.keep = keep ∧ ∃ dir, ∀ ops : List AreaOp, (∀ op ∈ ops, op.Fits a) →
      a.BehavesAs dir (a.fill s₁ ops) (Contents.empty.afterAll ops)
        ∧ FileTree.SameOutside dir s₁.tree (a.fill s₁ ops).tree := by
  obtain ⟨hkeep, loc, own, hfilled⟩ := filled_of_create hs hcreate
  refine ⟨hkeep, loc ++ [own], fun ops hfits => ?_⟩
  obtain ⟨hafter, houtside⟩ := hfilled.fill hfits
  exact ⟨hafter.behavesAs, houtside⟩

/-! An area in which a file and a directory get in each other's way, and which is left behind. -/

namespace SmallArea

def host : Host where
  system := "linux"
  tree := ⟨[(["r"], .dir)]⟩
  cwd := []
  serial := 0
  ports := []
  traffic := []
  log := []

def area : StagingArea := ⟨"/r/gramtest-000000", true⟩

def ops : List AreaOp :=
  [.writeFile "a/b/f" "old", .subdir "a/b/f/g", .writeFile "a" "x", .writeFile "a/b/f" "new",
    .stageInput "in"]

/-- What each of them is about. -/
def places : List (List String) :=
  [["a", "b", "f"], ["a", "b", "f", "g"], ["a"], ["a", "b", "f"], ["input"]]

end SmallArea

theorem fill_behavesAs_smallArea :
    (∃ s₁ dir, (create "/r" true).runOn SmallArea.host = (.ok SmallArea.area, s₁)
      ∧ SmallArea.area.BehavesAs dir (SmallArea.area.fill s₁ SmallArea.ops)
        (Contents.empty.afterAll SmallArea.ops))
      ∧ (Contents.empty.afterAll SmallArea.ops) ["a", "b", "f"]
        = some (.file (Text.utf8 "new")) := by
  have hfits : ∀ op ∈ SmallArea.ops, op.Fits SmallArea.area := by
    intro op hop
    have hplace : ∃ names ∈ SmallArea.places, op.relative? = some ("/".intercalate names)
        ∧ FileTree.checkText (op.path SmallArea.area) = .ok () := by
      revert op
      decide +kernel
    obtain ⟨names, hnames, hrelative, htext⟩ := hplace
    have hplaces : ∀ names ∈ SmallArea.places, names ≠ [] ∧ ∀ name ∈ names,
        ('/' ∉ name.toList ∧ Path.isIdle name = false ∧ name ≠ "..")
          ∧ FileTree.checkName name = .ok () := by
      decide +kernel
    obtain ⟨hne, hok⟩ := hplaces names hnames
    exact (AreaOp.fits_of_names hne hrelative (fun name h => (hok name h).1)
      (fun name h => (hok name h).2) htext).1
  have hcreate : ((create "/r" true).runOn SmallArea.host).1 = .ok SmallArea.area := by
    decide +kernel
  obtain ⟨-, dir, hbehaves⟩ := fill_behavesAs
    (FileTree.sound_of_entries (by decide : ∀ entry ∈ SmallArea.host.tree.entries, _))
    (runOn_of_fst hcreate)
  exact ⟨⟨_, dir, runOn_of_fst hcreate, (hbehaves SmallArea.ops hfits).1⟩, by decide +kernel⟩

end StagingArea

end GrammarBench
