import GrammarBench.Proofs.Compile
import GrammarBench.Proofs.Staging.Grown

/-!
# Work that stays in an area

An action `ActsIn` an area when on every host on which the area has been made it changes nothing
but what is in the directory of the area and what is recorded, and when what it does depends on
nothing else of what may differ between such hosts. It is a statement about two runs: on hosts that
are alike in the directory the action ends in the same way and leaves the directories alike. Two
areas that were made at different times have different directories, so such actions do not notice
each other.

What the bench does in an area is of this kind (`actsIn_writeGrammar`, `actsIn_stageInput`,
`actsIn_writeDriver`, `actsIn_close`), as long as the grammar has a name that is one component of a
path.
-/

namespace GrammarBench

open StagingArea FileTree

/-- The host has grown from `base`, and the number is one of those that were tried. -/
structure Host.GrownPast (base : Host) (root : Path) (n : Nat) (s : Host) : Prop
    extends base.Grown root s where
  tried : n < s.serial

/-- Between the hosts nothing changes but what is in the directory and what is recorded. -/
structure Host.ChangesIn (dir : Location) (s s' : Host) : Prop where
  setting : s.SameSetting s'
  serial : s'.serial = s.serial
  outside : SameOutside dir s.tree s'.tree

variable {base s s' : Host} {root : Path} {loc dir : Location} {n : Nat} {a : StagingArea}

namespace Host

theorem ChangesIn.refl (dir : Location) (s : Host) : s.ChangesIn dir s :=
  ⟨.refl s, rfl, .refl dir s.tree⟩

theorem ChangesIn.trans {s'' : Host} (h : ChangesIn dir s s') (h' : ChangesIn dir s' s'') :
    ChangesIn dir s s'' :=
  ⟨h.setting.trans h'.setting, h'.serial.trans h.serial, h.outside.trans h'.outside⟩

theorem ChangesIn.logging (h : ChangesIn dir s s') (events : List LogEvent) :
    ChangesIn dir s (s'.logging events) :=
  h.trans ⟨⟨rfl, rfl, rfl, rfl, rfl, rfl⟩, rfl, .refl dir _⟩

theorem GrownPast.of_changesIn (hs : base.GrownPast root n s) (hmade : a.MadeIn base root loc n)
    (hchanges : ChangesIn (loc ++ [dirName n]) s s') : base.GrownPast root n s' := by
  have htried : n < s'.serial := hchanges.serial ▸ hs.tried
  exact ⟨hs.toGrown.of_outside hmade hchanges.setting hchanges.serial.ge htried hchanges.outside,
    htried⟩

end Host

/-- What the action does is done in the directory with the number `n`, and depends on nothing else
that may differ between hosts on which it has been made. -/
structure ActsIn {α : Type} (base : Host) (root : Path) (loc : Location) (n : Nat)
    (act : Host → α × Host) : Prop where
  changes : ∀ s, base.GrownPast root n s → s.ChangesIn (loc ++ [dirName n]) (act s).2
  same : ∀ s s', base.GrownPast root n s → base.GrownPast root n s' →
    SameBelow (loc ++ [dirName n]) s.tree s'.tree →
    (act s).1 = (act s').1 ∧ SameBelow (loc ++ [dirName n]) (act s).2.tree (act s').2.tree

namespace ActsIn

variable {α β : Type} {act act' : Host → α × Host}

theorem congr (h : ActsIn base root loc n act)
    (heq : ∀ s, base.GrownPast root n s → act' s = act s) : ActsIn base root loc n act' where
  changes s hs := by
    rw [heq s hs]
    exact h.changes s hs
  same s s' hs hs' hsame := by
    rw [heq s hs, heq s' hs']
    exact h.same s s' hs hs' hsame

/-- The action gives something else, and more is logged. -/
theorem andLog (h : ActsIn base root loc n act) (result : α → β) (events : α → List LogEvent) :
    ActsIn base root loc n fun s => (result (act s).1, (act s).2.logging (events (act s).1)) where
  changes s hs := (h.changes s hs).logging _
  same s s' hs hs' hsame := by
    obtain ⟨hresult, hafter⟩ := h.same s s' hs hs' hsame
    exact ⟨congrArg result hresult, hafter⟩

theorem map (h : ActsIn base root loc n act) (result : α → β) :
    ActsIn base root loc n fun s => (result (act s).1, (act s).2) :=
  (h.andLog result fun _ => []).congr fun s _ => by rw [Host.logging_nil]

theorem pure (x : α) : ActsIn base root loc n fun s => (x, s) where
  changes s _ := .refl _ s
  same _ _ _ _ hsame := ⟨rfl, hsame⟩

theorem log (x : α) (events : List LogEvent) :
    ActsIn base root loc n fun s => (x, s.logging events) :=
  (ActsIn.pure x).andLog id fun _ => events

theorem bind {action : HostAction α} {next : α → HostAction β} (hmade : a.MadeIn base root loc n)
    (h : ActsIn base root loc n action.runOn)
    (hnext : ∀ x s s', action.runOn s = (.ok x, s') → ActsIn base root loc n (next x).runOn) :
    ActsIn base root loc n (action >>= next).runOn where
  changes s hs := by
    have hfirst := h.changes s hs
    rw [runOn_bind]
    rcases hrun : action.runOn s with ⟨f | x, s₁⟩
    · rwa [hrun] at hfirst
    · rw [hrun] at hfirst
      exact hfirst.trans ((hnext x s s₁ hrun).changes s₁ (hs.of_changesIn hmade hfirst))
  same s s' hs hs' hsame := by
    have hfirst := h.changes s hs
    have hfirst' := h.changes s' hs'
    obtain ⟨hresult, hafter⟩ := h.same s s' hs hs' hsame
    rw [runOn_bind, runOn_bind]
    rcases hrun : action.runOn s with ⟨r, s₁⟩
    rcases hrun' : action.runOn s' with ⟨r', s₁'⟩
    rw [hrun, hrun'] at hresult hafter
    rw [hrun] at hfirst
    rw [hrun'] at hfirst'
    obtain rfl : r = r' := hresult
    rcases r with f | x
    · exact ⟨rfl, hafter⟩
    · exact (hnext x s s₁ hrun).same s₁ s₁' (hs.of_changesIn hmade hfirst)
        (hs'.of_changesIn hmade hfirst') hafter

section Made

variable (hsound : base.tree.Sound) (hmade : a.MadeIn base root loc n)

include hsound hmade

theorem names (hs : base.GrownPast root n s) :
    s.tree.Names base.cwd a.path loc (dirName n) :=
  hmade.new.names.mono (hs.keeps hsound)

/-- An operation on the files in the area. -/
theorem of_localOn {op : FileTree → α × FileTree}
    (h : LocalOn (fun t => t.Names base.cwd a.path loc (dirName n)) (loc ++ [dirName n]) op) :
    ActsIn base root loc n fun s => ((op s.tree).1, { s with tree := (op s.tree).2 }) where
  changes _ hs := ⟨⟨rfl, rfl, rfl, rfl, rfl, rfl⟩, rfl, h.only _ (names hsound hmade hs)⟩
  same _ _ hs hs' hsame := h.same _ _ (names hsound hmade hs) (names hsound hmade hs') hsame

theorem makeDirs {p : Path}
    (h : LocalOn (fun t => t.Names base.cwd a.path loc (dirName n)) (loc ++ [dirName n])
      (·.makeDirs base.cwd p)) : ActsIn base root loc n (Host.makeDirs p).runOn :=
  ((of_localOn hsound hmade h).map (·.mapError .io)).congr fun s hs => by
    rw [Host.runOn_makeDirs, ← hs.setting.cwd]

theorem writeText {q : Path} {names : List String} {file : String}
    (hq : Leads a.path q (names ++ [file])) (hfile : file ≠ "") (text : String) :
    ActsIn base root loc n (Host.writeText q text).runOn := by
  refine ((of_localOn hsound hmade (localOn_write hq hfile (Text.utf8 text))).map
    (·.mapError .io)).congr fun s hs => ?_
  rw [Host.runOn_writeText, ← hs.setting.cwd]
  cases s.tree.write s.cwd q (Text.utf8 text) <;> rfl

end Made

end ActsIn

/-! ## What the bench does in an area -/

/-- The name is one component of a path, and leads neither up nor nowhere. -/
structure Path.IsComponent (name : String) : Prop where
  noSlash : '/' ∉ name.toList
  nonempty : name ≠ ""
  proper : isName name = true

namespace StagingArea

theorem isComponent_inputFile : Path.IsComponent inputFile :=
  ⟨by decide, by decide, by decide⟩

theorem isComponent_fileName (template : Driver.Template) :
    Path.IsComponent template.fileName := by
  cases template <;> exact ⟨by decide, by decide, by decide⟩

theorem isComponent_pageGrammarDir : Path.IsComponent Driver.pageGrammarDir :=
  ⟨by decide, by decide, by decide⟩

section Paths

variable (hmade : a.MadeIn base root loc n)

include hmade

theorem MadeIn.last : a.path.body.getLast? = some (dirName n) :=
  hmade.new.names.getLast?_body

theorem MadeIn.leads_path :
    ∃ names, Leads a.path a.path names ∧ a.path.body.getLast? ≠ some "" := by
  refine ⟨[], .refl _, ?_⟩
  rw [hmade.last]
  exact fun heq => hmade.new.names.nonempty (Option.some.inj heq)

theorem MadeIn.leads_join {name : String} (hname : Path.IsComponent name) :
    Leads a.path (Path.join a.path name) [name]
      ∧ (Path.join a.path name).body.getLast? ≠ some ""
      ∧ (Path.join a.path name).parent? = some a.path := by
  have hown := isIdle_of_isName hmade.new.names.nonempty hmade.new.names.proper
  obtain ⟨-, -, hlast⟩ := hmade.leads_path
  refine ⟨(Leads.refl a.path).join hlast hname.noSlash (isName_iff.mp hname.proper).2, ?_,
    Path.parent?_join_name hname.noSlash (isIdle_of_isName hname.nonempty hname.proper)
      hmade.last hown⟩
  rw [Path.body_join_name _ hname.noSlash, List.getLast?_concat]
  exact fun heq => hname.nonempty (Option.some.inj heq)

theorem MadeIn.leads_outputPath (kind : BackendKind) :
    ∃ names, Leads a.path (a.outputPath kind) names
      ∧ (a.outputPath kind).body.getLast? ≠ some "" := by
  cases kind with
  | process => exact hmade.leads_path
  | browser =>
      obtain ⟨hq, hlast, -⟩ := hmade.leads_join isComponent_pageGrammarDir
      exact ⟨_, hq, hlast⟩

end Paths

section Acts

variable (hsound : base.tree.Sound) (hmade : a.MadeIn base root loc n)

include hsound hmade

theorem actsIn_writeFile {file : String} (hfile : Path.IsComponent file) (text : String) :
    ActsIn base root loc n (a.writeFile file text).runOn := by
  obtain ⟨hq, -, hparent⟩ := hmade.leads_join hfile
  have hwrite := ActsIn.writeText hsound hmade (show Leads a.path _ ([] ++ [file]) from hq)
    hfile.nonempty text
  unfold writeFile
  dsimp only
  rw [hparent]
  exact .bind hmade (.makeDirs hsound hmade localOn_makeDirs_self) fun _ _ _ _ =>
    .bind hmade hwrite fun _ _ _ _ => .pure _

theorem actsIn_stageInput (input : String) : ActsIn base root loc n (a.stageInput input).runOn :=
  actsIn_writeFile hsound hmade isComponent_inputFile input

theorem actsIn_writeDriver (spec : DriverSpec) (kind : BackendKind) :
    ActsIn base root loc n (a.writeDriver spec kind).runOn := by
  cases hrender : Driver.render spec kind with
  | error f =>
      refine (ActsIn.pure (.error f)).congr fun s _ => ?_
      rw [runOn_writeDriver, hrender]
  | ok driver =>
      have hname := isComponent_fileName (Driver.Template.select spec kind)
      refine (actsIn_writeFile hsound hmade hname driver).congr fun s _ => ?_
      rw [runOn_writeDriver, hrender]

theorem actsIn_makeDirs_outputPath (kind : BackendKind) :
    ActsIn base root loc n (Host.makeDirs (a.outputPath kind)).runOn := by
  cases kind with
  | process => exact .makeDirs hsound hmade localOn_makeDirs_self
  | browser =>
      have hname := isComponent_pageGrammarDir
      obtain ⟨hq, hlast, hparent⟩ := hmade.leads_join hname
      have hfull : Path.join a.path Driver.pageGrammarDir ≠ "" := by
        intro hempty
        rw [hempty] at hlast
        exact hlast rfl
      exact .makeDirs hsound hmade (localOn_makeDirs hq hname.nonempty hfull hparent)

theorem actsIn_outputDir (kind : BackendKind) :
    ActsIn base root loc n (a.outputDir kind).runOn := by
  cases kind with
  | process => exact .pure _
  | browser =>
      exact .bind hmade (actsIn_makeDirs_outputPath hsound hmade .browser) fun _ _ _ _ => .pure _

theorem actsIn_writeGrammar {r : CompileRequest} (hname : Path.IsComponent r.grammarFileName)
    (kind : BackendKind) : ActsIn base root loc n (r.writeGrammar (a.outputPath kind)).runOn := by
  obtain ⟨names, hq, hlast⟩ := hmade.leads_outputPath kind
  have hwrite := ActsIn.writeText hsound hmade
    (hq.join hlast hname.noSlash (isName_iff.mp hname.proper).2) hname.nonempty r.grammarText
  exact .bind hmade (.log _ _) fun _ _ _ _ =>
    .bind hmade (actsIn_makeDirs_outputPath hsound hmade kind) fun _ _ _ _ => hwrite

/-- Giving up the area is work in it too: the directory is removed with what is in it, or it stays
as it is. -/
theorem actsIn_close : ActsIn base root loc n a.close.runOn := by
  cases hkeep : a.keep with
  | true =>
      refine (ActsIn.log (.ok ()) [⟨.info, "Keeping staging area " ++ a.path, []⟩]).congr
        fun s _ => ?_
      rw [runOn_close, closed, hkeep, if_pos rfl]
  | false =>
      refine ((ActsIn.of_localOn hsound hmade localOn_remove).map .ok).congr fun s hs => ?_
      rw [runOn_close, closed, hkeep, if_neg Bool.false_ne_true, ← hs.setting.cwd]
      cases s.tree.locate s.cwd a.path <;> rfl

end Acts

end StagingArea

end GrammarBench
