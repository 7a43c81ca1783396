import GrammarBench.Proofs.FileTree.Site

/-!
# Directories on the way

When a directory is made, the missing ones above it are made too. All of them lie on the way of the
path, which is where its segments lead one after another (`OnWay`), and nothing else of the tree
changes (`made_makeDirs`).
-/

namespace GrammarBench

namespace Path

/-! ## The parent of a path -/

theorem prefix_trimIdle (absolute : Bool) (segments : List String) :
    trimIdle absolute segments <+: segments := by
  cases segments with
  | nil => exact List.prefix_refl []
  | cons first rest =>
      rw [trimIdle]
      split
      · exact List.nil_prefix
      · exact (List.prefix_cons_inj first).mpr (List.rdropWhile_prefix isIdle rest)

theorem ofBody_nil (absolute : Bool) :
    (ofBody absolute []).isAbsolute = absolute ∧ (ofBody absolute []).body = [""] := by
  cases absolute <;> decide

theorem ofBody_append (absolute : Bool) {segments more : List String} (hne : segments ≠ [])
    (hmore : more ≠ []) :
    ofBody absolute (segments ++ more)
      = ofBody absolute segments ++ ("/" ++ "/".intercalate more) := by
  simp only [ofBody, String.intercalate_append_of_ne_nil hne hmore, String.append_assoc]

/-- What stands before a slash begins the segments of a path. -/
theorem body_append_slash {p : Path} (hp : p ≠ "") (rest : String) :
    body (p ++ ("/" ++ rest)) = p.body ++ splitSegments [] rest.toList := by
  have hrest : ("/" ++ rest).toList = '/' :: rest.toList := by simp
  rw [body_eq, bodyChars_append hp, hrest, splitSegments_append_slash, ← body_eq]

/-- The parent of a path begins where the path does, and its segments begin those of the path,
unless it has none. -/
theorem parent?_eq_some {p q : Path} (h : p.parent? = some q) :
    q.isAbsolute = p.isAbsolute ∧ (q.body = [""] ∨ q.body <+: p.body) := by
  simp only [parent?] at h
  split at h
  · cases h
  · injection h with hq
    set kept := trimIdle p.isAbsolute p.body
    have hlast : kept.dropLast <+: kept := List.dropLast_prefix kept
    have hprefix : trimIdle p.isAbsolute kept.dropLast <+: p.body :=
      (prefix_trimIdle _ _).trans (hlast.trans (prefix_trimIdle _ _))
    generalize trimIdle p.isAbsolute kept.dropLast = segments at hq hprefix
    subst hq
    obtain ⟨more, hbody⟩ := hprefix
    by_cases hne : segments = []
    · subst hne
      exact ⟨(ofBody_nil _).1, .inl (ofBody_nil _).2⟩
    · by_cases hmore : more = []
      · rw [hmore, List.append_nil] at hbody
        rw [hbody, ofBody_body]
        exact ⟨rfl, .inr (List.prefix_refl _)⟩
      · have hp : p = ofBody p.isAbsolute segments ++ ("/" ++ "/".intercalate more) := by
          rw [← ofBody_append _ hne hmore, hbody, ofBody_body]
        -- A relative path does not begin with a slash, so something stands before this one.
        have hfull : ofBody p.isAbsolute segments ≠ "" := by
          intro hempty
          rw [hempty] at hp
          have habs : p.isAbsolute = true := by
            rw [hp]
            simp [isAbsolute]
          rw [habs] at hempty
          simp [ofBody] at hempty
        refine ⟨?_, .inr ?_⟩
        · conv_rhs => rw [hp]
          exact (isAbsolute_of_append hfull _).symm
        · conv_rhs => rw [hp]
          rw [body_append_slash hfull]
          exact List.prefix_append _ _

end Path

namespace FileTree

variable {t t' t'' : FileTree} {cwd loc l : Location} {p q : Path}

/-! ## The way of a path -/

/-- Some of the first segments of the path lead to the location. -/
def OnWay (cwd : Location) (p : Path) (l : Location) : Prop :=
  ∃ init, init <+: p.body ∧ l = Location.follow (start cwd p) init

theorem OnWay.of_parent? (hparent : p.parent? = some q) (h : OnWay cwd q l) : OnWay cwd p l := by
  obtain ⟨habs, hbody⟩ := Path.parent?_eq_some hparent
  obtain ⟨init, hinit, rfl⟩ := h
  have hstart : start cwd q = start cwd p := by rw [start, start, habs]
  rw [hstart]
  rcases hbody with hempty | hprefix
  · rw [hempty] at hinit
    refine ⟨[], List.nil_prefix, ?_⟩
    rcases List.prefix_cons_iff.mp hinit with rfl | ⟨rest, rfl, hrest⟩
    · rfl
    · rw [List.prefix_nil.mp hrest]
      rfl
  · exact ⟨init, hinit.trans hprefix, rfl⟩

/-- A directory is made on the way of its path, where nothing stood. -/
theorem makeDir_onWay (h : t.makeDir cwd p = .ok t') :
    ∃ l, OnWay cwd p l ∧ t.node? l = none ∧ t' = t.put l .dir := by
  obtain ⟨end_, name, htarget, hlast, hproper, -, hnone, rfl⟩ := makeDir_eq_ok h
  obtain ⟨hne, init, slashes, hbody, hwalk, -⟩ := target_last htarget hlast
  refine ⟨_, ⟨init ++ [name], ?_, ?_⟩, hnone, rfl⟩
  · rw [hbody]
    exact ⟨slashes, (List.append_cons init name slashes).symm⟩
  · rw [follow_concat_name hne hproper, ← walk_eq_follow hwalk]

/-! ## What is made -/

/-- Between the trees nothing changed, but that directories were made at some of the locations where
nothing stood. -/
def Made (places : Location → Prop) (t t' : FileTree) : Prop :=
  ∀ l, t'.node? l = t.node? l ∨ t.node? l = none ∧ t'.node? l = some .dir ∧ places l

namespace Made

variable {places : Location → Prop}

theorem refl (t : FileTree) : Made places t t := fun _ => .inl rfl

theorem trans (h : Made places t t') (h' : Made places t' t'') : Made places t t'' := by
  intro l
  rcases h' l with hsame' | ⟨hnone', hdir', hplace⟩
  · rw [hsame']
    exact h l
  · rcases h l with hsame | ⟨-, hdir, -⟩
    · exact .inr ⟨hsame ▸ hnone', hdir', hplace⟩
    · rw [hdir] at hnone'
      cases hnone'

theorem put_dir (hplace : places loc) (hnone : t.node? loc = none) :
    Made places t (t.put loc .dir) := by
  have hroot : loc ≠ [] := by
    rintro rfl
    cases hnone
  intro l
  by_cases hl : l = loc
  · subst hl
    exact .inr ⟨hnone, node?_put_self hroot, hplace⟩
  · exact .inl (node?_put_of_ne hl)

end Made

/-- **Making a directory with its parents makes directories on its way and does nothing else.** -/
theorem made_makeDirs (t : FileTree) (cwd : Location) (p : Path) :
    Made (OnWay cwd p) t (t.makeDirs cwd p).2 := by
  refine rel_makeDirsFrom (P := fun q => ∀ l, OnWay cwd q l → OnWay cwd p l) Made.refl Made.trans
    (fun hway hparent l hl => hway l (hl.of_parent? hparent)) ?_ _ t p fun _ h => h
  intro t t' q hway hmade
  obtain ⟨l, hl, hnone, rfl⟩ := makeDir_onWay hmade
  exact .put_dir (hway l hl) hnone

end FileTree

end GrammarBench
