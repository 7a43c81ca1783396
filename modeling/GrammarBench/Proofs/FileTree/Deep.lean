import GrammarBench.Proofs.FileTree.Alike
import GrammarBench.Proofs.FileTree.Ordinary

/-!
# Entries deep in a directory

A path that leads down from a directory ends there in one of three ways: all names are those of
directories, a file stands on the way, or something is missing (`ends_walk`). So there are two ends
for making a directory with its parents. A file stands on the way, and nothing at all is made; or
none does, and then exactly the missing directories are (`LeadsFrom.makes`). Which of the two it is
shows before the first parent is made, since a path that meets a file has met no gap before it.
-/

namespace GrammarBench.FileTree

variable {t t' t₁ : FileTree} {cwd dir l m : Location} {p q : Path} {segments init : List String}
  {name : String} {node : Node}

theorem Keeps.trans {t'' : FileTree} (h : Keeps t t') (h' : Keeps t' t'') : Keeps t t'' :=
  ⟨fun l hl => h'.dir l (h.dir l hl), fun l hl => h'.entry l (h.entry l hl)⟩

/-! ## Files on the way -/

def IsFile : Option Node → Prop
  | some (.file _) => True
  | _ => False

instance : DecidablePred IsFile
  | some (.file _) => .isTrue trivial
  | some .dir => .isFalse id
  | none => .isFalse id

theorem or_dir_of_not_isFile {entry : Option Node} (h : ¬IsFile entry) :
    entry.or (some .dir) = some .dir := by
  cases entry with
  | none => rfl
  | some node =>
      cases node with
      | dir => rfl
      | file content => exact absurd trivial h

/-- A regular file stands at the location or above it. -/
def FileOn (t : FileTree) (l : Location) : Prop :=
  ∃ m, m <+: l ∧ IsFile (t.node? m)

theorem FileOn.mono (h : t.FileOn l) (hl : l <+: m) : t.FileOn m := by
  obtain ⟨above, habove, hfile⟩ := h
  exact ⟨above, habove.trans hl, hfile⟩

theorem none_of_not (hdir : ¬t.isDir l = true) (hfile : ¬t.FileOn l) : t.node? l = none := by
  cases hnode : t.node? l with
  | none => rfl
  | some node =>
      cases node with
      | dir => exact absurd (beq_iff_eq.mpr hnode) hdir
      | file content => exact absurd ⟨l, List.prefix_refl l, by rw [hnode]; trivial⟩ hfile

theorem fileOn_concat : t.FileOn (l ++ [name]) ↔ t.FileOn l ∨ IsFile (t.node? (l ++ [name])) := by
  constructor
  · rintro ⟨m, hm, hfile⟩
    rcases List.prefix_concat_iff.mp hm with rfl | hm
    · exact .inr hfile
    · exact .inl ⟨m, hm, hfile⟩
  · rintro (h | h)
    · exact h.mono (List.prefix_append l [name])
    · exact ⟨_, List.prefix_refl _, h⟩

theorem not_fileOn_concat (hl : ¬t.FileOn l) (hnone : t.node? (l ++ [name]) = none) :
    ¬t.FileOn (l ++ [name]) := by
  rw [fileOn_concat, hnone]
  exact fun h => h.elim hl id

namespace Sound

variable (h : t.Sound)

include h

/-- What stands above an entry is a directory. -/
theorem isDir_of_prefix (hm : m <+: l) (hne : m ≠ l) (hl : (t.node? l).isSome = true) :
    t.isDir m = true := by
  obtain ⟨rest, rfl⟩ := hm
  cases rest with
  | nil => exact absurd (List.append_nil m).symm hne
  | cons name rest =>
      rw [List.append_cons] at hl
      exact h m name (h.isSome_of_prefix hl)

theorem isDir_above (hm : m <+: l) (hl : t.isDir l = true) : t.isDir m = true := by
  by_cases hne : m = l
  · rw [hne, hl]
  · exact h.isDir_of_prefix hm hne (isSome_of_isDir hl)

theorem not_fileOn (hl : t.isDir l = true) : ¬t.FileOn l := by
  rintro ⟨m, hm, hfile⟩
  rw [beq_iff_eq.mp (h.isDir_above hm hl)] at hfile
  exact hfile

/-- Putting an entry into a directory, where no directory is, leaves a sound tree. -/
theorem put (hl : t.isDir l = true) (hno : t.isDir (l ++ [name]) = false) :
    (t.put (l ++ [name]) node).Sound := by
  have hkeeps : Keeps t (t.put (l ++ [name]) node) := .put hno
  intro m other hsome
  by_cases heq : m ++ [other] = l ++ [name]
  · obtain ⟨rfl, -⟩ := List.append_inj' heq rfl
    exact hkeeps.dir _ hl
  · rw [node?_put_of_ne heq] at hsome
    exact hkeeps.dir _ (h m other hsome)

end Sound

/-! ## How a way down ends -/

/-- What becomes of following a path that leads to the location and has to end in a directory. -/
inductive Ends (t : FileTree) (l : Location) : Except IoFault Location → Prop
  | dir (h : t.isDir l = true) : Ends t l (.ok l)
  | file (h : t.FileOn l) : Ends t l (.error .notDirectory)
  | missing (h : t.node? l = none) (hno : ¬t.FileOn l) : Ends t l (.error .notFound)

namespace Ends

variable {r : Except IoFault Location}

theorem eq_of_isDir (h : t.Ends l r) (hs : t.Sound) (hl : t.isDir l = true) : r = .ok l := by
  cases h with
  | dir _ => rfl
  | file hfile => exact absurd hfile (hs.not_fileOn hl)
  | missing hnone _ =>
      rw [isDir, hnone] at hl
      cases hl

theorem eq_of_fileOn (h : t.Ends l r) (hs : t.Sound) (hl : t.FileOn l) :
    r = .error .notDirectory := by
  cases h with
  | dir hdir => exact absurd hl (hs.not_fileOn hdir)
  | file _ => rfl
  | missing _ hno => exact absurd hl hno

theorem eq_of_none (h : t.Ends l r) (hl : t.node? l = none) (hno : ¬t.FileOn l) :
    r = .error .notFound := by
  cases h with
  | dir hdir =>
      rw [isDir, hl] at hdir
      cases hdir
  | file hfile => exact absurd hfile hno
  | missing _ _ => rfl

end Ends

/-- Where nothing is, nothing is below. -/
theorem Sound.none_below (name : String) (hs : t.Sound) (hl : t.node? l = none)
    (hno : ¬t.FileOn l) :
    t.node? (l ++ [name]) = none ∧ ¬t.FileOn (l ++ [name]) := by
  have hnone : t.node? (l ++ [name]) = none := by
    by_contra hsome
    have habove := hs.isSome_of_prefix (Option.isSome_iff_ne_none.mpr hsome)
    rw [hl] at habove
    cases habove
  exact ⟨hnone, not_fileOn_concat hno hnone⟩

theorem enter_of_isDir (hl : t.isDir l = true) : t.enter l = .ok l :=
  if_pos hl

theorem enter_bind_enter {α : Type} (t : FileTree) (l : Location)
    (f : Location → Except IoFault α) :
    (t.enter l >>= fun m => t.enter m >>= f) = t.enter l >>= f := by
  unfold enter
  cases hl : t.isDir l <;> simp [hl]

theorem step_eq_bind (t : FileTree) (l : Location) (segment : String) :
    t.step l segment = t.enter l >>= fun m => t.step m segment := by
  unfold step
  exact (enter_bind_enter t l _).symm

theorem walk_concat (t : FileTree) (l : Location) (init : List String) (segment : String) :
    t.walk l (init ++ [segment]) >>= t.enter
      = (t.walk l init >>= t.enter) >>= fun m => t.step m segment >>= t.enter := by
  rw [walk_append, bind_assoc, bind_assoc]
  refine congrArg _ (funext fun m => ?_)
  have hlast : t.walk m [segment] = t.step m segment := by
    simp [walk]
  rw [hlast, ← bind_assoc, ← step_eq_bind]

theorem ends_step {segment : String} (hs : t.Sound) (hl : t.isDir l = true) (hup : segment ≠ "..")
    (hfits : checkName segment = .ok ()) :
    t.Ends (Location.next l segment) (t.step l segment >>= t.enter) := by
  have hup' : (segment == "..") = false := by simpa using hup
  unfold step Location.next
  rw [enter_of_isDir hl, ok_bind]
  by_cases hidle : Path.isIdle segment = true
  · have hstay : (pure l >>= t.enter : Except IoFault Location) = .ok l := enter_of_isDir hl
    rw [if_pos hidle, if_pos hidle, hstay]
    exact .dir hl
  · rw [if_neg hidle, if_neg hidle, hup', if_neg Bool.false_ne_true, if_neg hup, hfits, ok_bind]
    cases hnode : t.node? (l ++ [segment]) with
    | none => exact .missing hnode (not_fileOn_concat (hs.not_fileOn hl) hnode)
    | some node =>
        show t.Ends (l ++ [segment]) (t.enter (l ++ [segment]))
        cases node with
        | dir =>
            have hdir : t.isDir (l ++ [segment]) = true := beq_iff_eq.mpr hnode
            rw [enter_of_isDir hdir]
            exact .dir hdir
        | file content =>
            have hno : t.isDir (l ++ [segment]) = false := by rw [isDir, hnode]; rfl
            rw [enter, hno, if_neg Bool.false_ne_true]
            exact .file (fileOn_concat.mpr (.inr (by rw [hnode]; trivial)))

/-- **A way down from a directory** ends in a directory, at a file, or where something is missing;
what comes behind a file or a gap does not matter. -/
theorem ends_walk (hs : t.Sound) (hdir : t.isDir dir = true) (hdown : ".." ∉ segments)
    (hfits : ∀ segment ∈ segments, checkName segment = .ok ()) :
    t.Ends (Location.follow dir segments) (t.walk dir segments >>= t.enter) := by
  induction segments using List.reverseRecOn with
  | nil =>
      have henter : t.walk dir [] >>= t.enter = .ok dir := by
        rw [walk, List.foldlM_nil]
        exact if_pos hdir
      rw [henter]
      exact .dir hdir
  | append_singleton init segment ih =>
      simp only [List.mem_append, List.mem_singleton, not_or] at hdown hfits
      have hinit := ih hdown.1 fun s hmem => hfits s (.inl hmem)
      have hup : segment ≠ ".." := Ne.symm hdown.2
      have hbelow : ∀ l, l <+: Location.next l segment := fun l =>
        show l <+: Location.follow l [segment] from
          Location.prefix_follow fun s hmem => List.mem_singleton.mp hmem ▸ hup
      rw [walk_concat, Location.follow_append]
      generalize t.walk dir init >>= t.enter = r at hinit ⊢
      generalize Location.follow dir init = l at hinit ⊢
      show t.Ends (Location.next l segment) _
      cases hinit with
      | dir h => exact ends_step hs h hup (hfits segment (.inr rfl))
      | file h => exact .file (h.mono (hbelow l))
      | missing h hno =>
          unfold Location.next
          rw [if_neg hup]
          split
          · exact .missing h hno
          · obtain ⟨hnone, hclear⟩ := hs.none_below _ h hno
            exact .missing hnone hclear

/-! ## Paths that lead from a directory -/

/-- The path leads to the directory at `dir`, in the end by a name, and from there along the
segments. Whether anything stands there is left open. -/
structure LeadsFrom (t : FileTree) (cwd dir : Location) (q : Path) (segments : List String) :
    Prop where
  text : checkText q = .ok ()
  base : ∃ base own, q.body = base ++ segments ∧ base.getLast? = some own
    ∧ Path.isIdle own = false ∧ t.walk (start cwd q) base = .ok dir
  dir : t.isDir dir = true
  down : ".." ∉ segments
  fits : ∀ segment ∈ segments, checkName segment = .ok ()

namespace LeadsFrom

theorem of_keeps (h : t.LeadsFrom cwd dir q segments) (hk : Keeps t t') :
    t'.LeadsFrom cwd dir q segments where
  text := h.text
  base := by
    obtain ⟨base, own, hbody, hlast, hown, hwalk⟩ := h.base
    exact ⟨base, own, hbody, hlast, hown, walk_of_keeps hk hwalk⟩
  dir := hk.dir _ h.dir
  down := h.down
  fits := h.fits

theorem ends (hs : t.Sound) (h : t.LeadsFrom cwd dir q segments) :
    t.Ends (Location.follow dir segments) (t.walk dir segments >>= t.enter) :=
  ends_walk hs h.dir h.down h.fits

/-- The path is that of a directory exactly when a directory stands where it leads. -/
theorem isDirAt_iff (hs : t.Sound) (h : t.LeadsFrom cwd dir q segments) :
    t.isDirAt cwd q = true ↔ t.isDir (Location.follow dir segments) = true := by
  obtain ⟨base, own, hbody, -, -, hwalk⟩ := h.base
  have hlocate : ∀ l, t.locate cwd q = .ok l ↔ t.walk dir segments = .ok l := by
    intro l
    rw [locate_eq_ok, hbody, walk_append, hwalk, ok_bind]
    exact and_iff_right h.text
  rw [FileTree.isDirAt_iff]
  constructor
  · rintro ⟨l, hl, hdir⟩
    rwa [← walk_eq_follow ((hlocate l).mp hl)]
  · intro hdir
    obtain ⟨l, hl, -⟩ := bind_eq_ok.mp ((h.ends hs).eq_of_isDir hs hdir)
    exact ⟨l, (hlocate l).mpr hl, walk_eq_follow hl ▸ hdir⟩

section Name

variable (h : t.LeadsFrom cwd dir q (init ++ [name]))

include h

theorem checkName : checkName name = .ok () :=
  h.fits name (by simp)

theorem ends_init (hs : t.Sound) :
    t.Ends (Location.follow dir init) (t.walk dir init >>= t.enter) :=
  ends_walk hs h.dir (fun hmem => h.down (List.mem_append_left _ hmem))
    fun s hmem => h.fits s (List.mem_append_left _ hmem)

variable (hname : Path.isIdle name = false)

include hname

theorem ne_empty : name ≠ "" := by
  rintro rfl
  cases hname

theorem isName : isName name = true := by
  rw [isName_iff]
  refine ⟨?_, fun heq => h.down (by simp [heq])⟩
  rintro rfl
  cases hname

theorem follow : Location.follow dir (init ++ [name]) = Location.follow dir init ++ [name] :=
  follow_concat_name (h.ne_empty hname) (h.isName hname)

theorem parent? : ∃ p, q.parent? = some p
    ∧ t.LeadsFrom cwd dir p (init.rdropWhile Path.isIdle)
    ∧ Location.follow dir (init.rdropWhile Path.isIdle) = Location.follow dir init := by
  obtain ⟨base, own, hbody, hlast, hown, hwalk⟩ := h.base
  obtain ⟨p, rest, hparent, hp, habs, hbody'⟩ := Path.parent?_of_body hbody hname hlast hown
  have hinit : ∀ s ∈ init.rdropWhile Path.isIdle, s ∈ init ++ [name] := fun s hmem =>
    List.mem_append_left _ ((List.rdropWhile_prefix _ _).subset hmem)
  refine ⟨p, hparent, ⟨?_, ⟨base, own, hbody', hlast, hown, ?_⟩, h.dir,
    fun hmem => h.down (hinit _ hmem), fun s hmem => h.fits s (hinit s hmem)⟩, ?_⟩
  · have htext : checkText (p ++ rest) = .ok () := hp ▸ h.text
    refine checkText_of_append ?_ htext
    rintro rfl
    have hempty : base ++ init.rdropWhile Path.isIdle = [""] := hbody'.symm
    obtain ⟨front, rfl⟩ := List.getLast?_eq_some_iff.mp hlast
    have hfront : own ∈ [""] := hempty ▸ by simp
    rw [List.mem_singleton.mp hfront] at hown
    cases hown
  · rwa [start, habs, ← start]
  · conv_rhs => rw [← List.rdropWhile_append_rtakeWhile (p := Path.isIdle) (l := init)]
    rw [Location.follow_append, Location.follow_idle fun s hmem => List.mem_rtakeWhile_imp hmem]

theorem target : t.target cwd q = (t.walk dir init >>= t.enter) >>= fun parent =>
    .ok { parent, last := some name, closed := false } := by
  obtain ⟨base, own, hbody, -, -, hwalk⟩ := h.base
  rw [← List.append_assoc] at hbody
  rw [target_of_walk h.text hbody (h.ne_empty hname), walk_append, hwalk, ok_bind, bind_assoc]

theorem target_of_isDir (hs : t.Sound) (hl : t.isDir (Location.follow dir init) = true) :
    t.target cwd q
      = .ok { parent := Location.follow dir init, last := some name, closed := false } := by
  rw [h.target hname, (h.ends_init hs).eq_of_isDir hs hl]
  rfl

/-- Writing into a directory that is there. -/
theorem write_eq (hs : t.Sound) (hl : t.isDir (Location.follow dir init) = true)
    (content : List UInt8) :
    t.write cwd q content =
      if t.isDir (Location.follow dir init ++ [name]) then .error .isDirectory
      else .ok (t.put (Location.follow dir init ++ [name]) (.file content)) := by
  rw [write_of_target (h.target_of_isDir hname hs hl), h.isName hname, h.checkName, ok_bind]
  rfl

/-- Where a directory stands it is not written, and nothing is made for it: its parent is there. -/
theorem write_of_isDir (hs : t.Sound) (hparent : q.parent? = some p)
    (hdir : t.isDir (Location.follow dir init ++ [name]) = true) (content : List UInt8) :
    t.makeDirs cwd p = (.ok (), t) ∧ t.write cwd q content = .error .isDirectory := by
  have hl : t.isDir (Location.follow dir init) = true := hs _ _ (isSome_of_isDir hdir)
  obtain ⟨parent, hsome, hup, hfollow⟩ := h.parent? hname
  obtain rfl : parent = p := Option.some.inj (hsome.symm.trans hparent)
  refine ⟨makeDirs_of_isDirAt ((hup.isDirAt_iff hs).mpr (hfollow ▸ hl)), ?_⟩
  rw [h.write_eq hname hs hl, if_pos hdir]

/-! ### One directory -/

/-- A directory that cannot be made leaves the tree, unless it is there. -/
theorem ensureDir_of_error {fault : IoFault} (hs : t.Sound)
    (hfault : t.makeDir cwd q = .error fault)
    (hno : t.isDir (Location.follow dir init ++ [name]) = false) :
    t.ensureDir cwd q = (.error fault, t) := by
  have hthere : t.isDirAt cwd q = false := by
    rw [Bool.eq_false_iff, ne_eq, h.isDirAt_iff hs, h.follow hname, hno]
    exact Bool.false_ne_true
  simp only [ensureDir, hfault, hthere]
  rfl

theorem ensureDir_of_fileOn (hs : t.Sound) (hfile : t.FileOn (Location.follow dir init)) :
    t.ensureDir cwd q = (.error .notDirectory, t) := by
  refine h.ensureDir_of_error hname hs ?_ ?_
  · rw [makeDir, h.target hname, (h.ends_init hs).eq_of_fileOn hs hfile]
    rfl
  · rw [Bool.eq_false_iff]
    exact fun hdir => hs.not_fileOn hdir (fileOn_concat.mpr (.inl hfile))

theorem ensureDir_of_missing (hs : t.Sound) (hnone : t.node? (Location.follow dir init) = none)
    (hno : ¬t.FileOn (Location.follow dir init)) :
    t.ensureDir cwd q = (.error .notFound, t) := by
  refine h.ensureDir_of_error hname hs ?_ ?_
  · rw [makeDir, h.target hname, (h.ends_init hs).eq_of_none hnone hno]
    rfl
  · rw [isDir, (hs.none_below _ hnone hno).1]
    rfl

/-- A directory is made where its parent is there and nothing else is. -/
theorem ensureDir_of_none (hs : t.Sound) (hl : t.isDir (Location.follow dir init) = true)
    (hnone : t.node? (Location.follow dir init ++ [name]) = none) :
    t.ensureDir cwd q = (.ok (), t.put (Location.follow dir init ++ [name]) .dir) := by
  rw [ensureDir, makeDir_of_target (h.target_of_isDir hname hs hl), h.isName hname, h.checkName,
    ok_bind, hnone]
  rfl

theorem ensureDir_of_file {content : List UInt8} (hs : t.Sound)
    (hl : t.isDir (Location.follow dir init) = true)
    (hnode : t.node? (Location.follow dir init ++ [name]) = some (.file content)) :
    t.ensureDir cwd q = (.error .alreadyExists, t) := by
  refine h.ensureDir_of_error hname hs ?_ (by rw [isDir, hnode]; rfl)
  rw [makeDir_of_target (h.target_of_isDir hname hs hl), h.isName hname, h.checkName, ok_bind,
    hnode]
  rfl

end Name

end LeadsFrom

/-! ## Directories with their parents -/

/-- Between the trees exactly the directories were made that were missing at the location and above
it. -/
def AddsDirs (t : FileTree) (l : Location) (t' : FileTree) : Prop :=
  ∀ m, t'.node? m = if m <+: l then (t.node? m).or (some .dir) else t.node? m

namespace AddsDirs

theorem refl (hs : t.Sound) (hl : t.isDir l = true) : t.AddsDirs l t := by
  intro m
  split
  · rename_i hm
    rw [beq_iff_eq.mp (hs.isDir_above hm hl)]
    rfl
  · rfl

/-- One more directory, in the last one. -/
theorem put (h : t.AddsDirs l t₁) (hnone : t.node? (l ++ [name]) = none) :
    t.AddsDirs (l ++ [name]) (t₁.put (l ++ [name]) .dir) := by
  intro m
  by_cases hm : m = l ++ [name]
  · subst hm
    rw [node?_put_self (by simp), if_pos (List.prefix_refl _), hnone]
    rfl
  · rw [node?_put_of_ne hm, h m]
    simp only [List.prefix_concat_iff, hm, false_or]

theorem keeps (h : t.AddsDirs l t₁) : Keeps t t₁ := by
  refine .of_nodes fun m node hnode => ?_
  rw [h m, hnode]
  split <;> rfl

/-- Where no file was, directories are now. -/
theorem isDir (h : t.AddsDirs l t₁) (hno : ¬t.FileOn l) (hm : m <+: l) : t₁.isDir m = true := by
  by_cases hdir : t.isDir m = true
  · exact h.keeps.dir m hdir
  · have hnone := none_of_not hdir fun hfile => hno (hfile.mono hm)
    rw [FileTree.isDir, h m, if_pos hm, hnone]
    rfl

theorem sound (h : t.AddsDirs l t₁) (hs : t.Sound) (hno : ¬t.FileOn l) : t₁.Sound := by
  intro m name hsome
  by_cases hm : m ++ [name] <+: l
  · exact h.isDir hno ((List.prefix_append m [name]).trans hm)
  · rw [h, if_neg hm] at hsome
    exact h.keeps.dir m (hs m name hsome)

end AddsDirs

/-- What making a directory with its parents comes to. -/
inductive Makes (t : FileTree) (l : Location) : Except IoFault Unit × FileTree → Prop
  | made {t' : FileTree} (hno : ¬t.FileOn l) (h : t.AddsDirs l t') : Makes t l (.ok (), t')
  | blocked (fault : IoFault) (h : t.FileOn l) : Makes t l (.error fault, t)

theorem makeDirsFrom_of_ne (hq : q ≠ "") (fuel : Nat)
    (h : (t.ensureDir cwd q).1 ≠ .error .notFound) :
    t.makeDirsFrom cwd q (fuel + 1) = t.ensureDir cwd q := by
  have hfull : q.isEmpty = false := by rwa [Bool.eq_false_iff, ne_eq, String.isEmpty_iff]
  rw [makeDirsFrom, hfull, if_neg Bool.false_ne_true]
  split
  · rename_i heq
    exact absurd (congrArg Prod.fst heq) h
  · rfl

theorem makeDirsFrom_of_notFound (hq : q ≠ "") (fuel : Nat) (hparent : q.parent? = some p)
    (h : t.ensureDir cwd q = (.error .notFound, t)) :
    t.makeDirsFrom cwd q (fuel + 1) = ensureBelow cwd q (t.makeDirsFrom cwd p fuel) := by
  have hfull : q.isEmpty = false := by rwa [Bool.eq_false_iff, ne_eq, String.isEmpty_iff]
  rw [makeDirsFrom, hfull, if_neg Bool.false_ne_true, h, hparent]
  dsimp only [IoFault.notFound]
  rcases t.makeDirsFrom cwd p fuel with ⟨fault | ⟨⟩, t'⟩ <;> rfl

namespace LeadsFrom

variable (h : t.LeadsFrom cwd dir q (init ++ [name])) (hname : Path.isIdle name = false)

include h hname

/-- Where the parent is there, the directory is made, or it is there, or a file is. -/
theorem makes_of_isDir (hs : t.Sound) (hl : t.isDir (Location.follow dir init) = true) :
    (t.ensureDir cwd q).1 ≠ .error .notFound
      ∧ t.Makes (Location.follow dir init ++ [name]) (t.ensureDir cwd q) := by
  cases hnode : t.node? (Location.follow dir init ++ [name]) with
  | none =>
      rw [h.ensureDir_of_none hname hs hl hnode]
      exact ⟨by simp, .made (not_fileOn_concat (hs.not_fileOn hl) hnode)
        ((AddsDirs.refl hs hl).put hnode)⟩
  | some node =>
      cases node with
      | dir =>
          have hthere : t.isDir (Location.follow dir init ++ [name]) = true := beq_iff_eq.mpr hnode
          rw [ensureDir_of_isDirAt ((h.isDirAt_iff hs).mpr (by rwa [h.follow hname]))]
          exact ⟨by simp, .made (hs.not_fileOn hthere) (.refl hs hthere)⟩
      | file content =>
          rw [h.ensureDir_of_file hname hs hl hnode]
          exact ⟨by simp [IoFault.alreadyExists, IoFault.notFound],
            .blocked _ (fileOn_concat.mpr (.inr (by rw [hnode]; trivial)))⟩

/-- Where the parent is missing, the directory is made once the parent has been. -/
theorem makes_below (hs : t.Sound) (hnone : t.node? (Location.follow dir init) = none)
    (hno : ¬t.FileOn (Location.follow dir init)) {r : Except IoFault Unit × FileTree}
    (hmakes : t.Makes (Location.follow dir init) r) :
    t.Makes (Location.follow dir init ++ [name]) (ensureBelow cwd q r) := by
  obtain ⟨hnone', hno'⟩ := hs.none_below name hnone hno
  cases hmakes with
  | @made t₁ _ hadds =>
      have hthere : t₁.node? (Location.follow dir init ++ [name]) = none := by
        rw [hadds, if_neg (by simp [List.prefix_iff_eq_append]), hnone']
      rw [ensureBelow, (h.of_keeps hadds.keeps).ensureDir_of_none hname (hadds.sound hs hno)
        (hadds.isDir hno (List.prefix_refl _)) hthere]
      exact .made hno' (hadds.put hnone')
  | blocked fault hfile => exact absurd hfile hno

end LeadsFrom

/-- The last segment of a path that ends in a name. -/
def EndsInName (segments : List String) : Prop :=
  ∀ name, segments.getLast? = some name → Path.isIdle name = false

theorem endsInName_rdropWhile (segments : List String) :
    EndsInName (segments.rdropWhile Path.isIdle) := by
  intro name hlast
  have hne : segments.rdropWhile Path.isIdle ≠ [] := by
    intro hnil
    rw [hnil] at hlast
    cases hlast
  rw [List.getLast?_eq_some_getLast hne] at hlast
  rw [← Option.some.inj hlast]
  simpa using List.rdropWhile_last_not Path.isIdle segments hne

theorem makes_of_fuel (hs : t.Sound) {fuel : Nat} (hfuel : segments.length < fuel)
    (h : t.LeadsFrom cwd dir q segments) (hlast : EndsInName segments) :
    t.Makes (Location.follow dir segments) (t.makeDirsFrom cwd q fuel) := by
  -- on the fuel, since the parent of a path has fewer segments
  induction fuel generalizing q segments with
  | zero => omega
  | succ fuel ih =>
      have hq : q ≠ "" := (checkText_eq_ok.mp h.text).2.2
      cases segments using List.reverseRecOn with
      | nil =>
          have hthere := ensureDir_of_isDirAt ((h.isDirAt_iff hs).mpr h.dir)
          rw [makeDirsFrom_of_ne hq fuel (by rw [hthere]; simp), hthere]
          exact .made (hs.not_fileOn h.dir) (.refl hs h.dir)
      | append_singleton init name =>
          have hname := hlast name List.getLast?_concat
          rw [h.follow hname]
          by_cases hdir : t.isDir (Location.follow dir init) = true
          · obtain ⟨hne, hmakes⟩ := h.makes_of_isDir hname hs hdir
            rw [makeDirsFrom_of_ne hq fuel hne]
            exact hmakes
          by_cases hfile : t.FileOn (Location.follow dir init)
          · have hstay := h.ensureDir_of_fileOn hname hs hfile
            rw [makeDirsFrom_of_ne hq fuel
              (by rw [hstay]; simp [IoFault.notDirectory, IoFault.notFound]), hstay]
            exact .blocked _ (fileOn_concat.mpr (.inl hfile))
          · have hnone := none_of_not hdir hfile
            obtain ⟨p, hparent, hp, hfollow⟩ := h.parent? hname
            have hshorter : (init.rdropWhile Path.isIdle).length < fuel := by
              have hle := (List.rdropWhile_prefix Path.isIdle init).length_le
              rw [List.length_append, List.length_singleton] at hfuel
              omega
            have hmakes := ih hshorter hp (endsInName_rdropWhile init)
            rw [hfollow] at hmakes
            rw [makeDirsFrom_of_notFound hq fuel hparent
              (h.ensureDir_of_missing hname hs hnone hfile)]
            exact h.makes_below hname hs hnone hfile hmakes

/-- **Making a directory with its parents** makes exactly what is missing of them, or nothing at all
where a file stands on the way. -/
theorem LeadsFrom.makes (hs : t.Sound) (h : t.LeadsFrom cwd dir q segments)
    (hlast : EndsInName segments) :
    t.Makes (Location.follow dir segments) (t.makeDirs cwd q) := by
  obtain ⟨base, own, hbody, -⟩ := h.base
  refine makes_of_fuel hs ?_ h hlast
  rw [hbody, List.length_append]
  omega

end GrammarBench.FileTree
