import GrammarBench.Proofs.Harness.Areas
import GrammarBench.Proofs.Harness.Steps
import GrammarBench.Proofs.Staging.Apart

/-!
# One step of a case among others

A case shares its host with other cases when they have the same staging root. Here is what one of
its steps does to the host, and what the step depends on.

To the others it does nothing (`comes_advance`): the host has grown, and an area of another case is
as it was. And it notices nothing of them (`advance_alike`): on two hosts that have grown from one
and are alike in the area of the case, the step leads to the same progress and leaves them alike. In
its first step the case has no area yet, and what counts is that the same numbers were tried.

What is taken for granted is that the case is `SelfContained`: the name of its grammar is one
component of a path, and the tool and the backend act in the area that they are given.
-/

namespace GrammarBench

open StagingArea FileTree

variable {base s s' : Host} {root : Path} {loc : Location} {n : Nat} {a b : StagingArea}

/-! ## Areas with different paths -/

theorem StagingArea.MadeIn.number_inj {loc' : Location} {m : Nat} (ha : a.MadeIn base root loc n)
    (hb : b.MadeIn base root loc' m) (hpath : a.path = b.path) : n = m := by
  rw [ha.new.path, hb.new.path] at hpath
  exact dirName_injective
    (Path.join_inj ha.new.areaName.isAbsolute hb.new.areaName.isAbsolute hpath)

theorem StagingArea.MadeIn.unique {loc' : Location} {m : Nat} (h : a.MadeIn base root loc n)
    (h' : a.MadeIn base root loc' m) : loc = loc' ∧ n = m :=
  ⟨h.canHold.isRoot.unique h'.canHold.isRoot, h.number_inj h' rfl⟩

/-- What is done in one area is not seen in another one. -/
theorem StagingArea.MadeIn.sameBelow {loc' : Location} {m : Nat} {t t' : FileTree}
    (ha : a.MadeIn base root loc n) (hb : b.MadeIn base root loc' m) (hne : n ≠ m)
    (hout : SameOutside (loc ++ [dirName n]) t t') : SameBelow (loc' ++ [dirName m]) t t' := by
  obtain rfl := ha.canHold.isRoot.unique hb.canHold.isRoot
  rintro l ⟨rest, rfl⟩
  refine (hout _ fun hpre => hne ?_).symm
  rw [List.append_assoc, List.prefix_append_right_inj, List.singleton_append,
    List.cons_prefix_cons] at hpre
  exact dirName_injective hpre.1

namespace Harness

variable {h : Harness} {c : Case} {p : Progress}

/-- What is taken for granted of a case with this staging root. Where a program that it runs is told
of an area, it acts there. -/
structure SelfContained (h : Harness) (c : Case) (base : Host) (root : Path) : Prop where
  stagingRoot : h.config.stagingRoot = root
  grammar : Path.IsComponent c.grammarFileName
  tool : ∀ (a : StagingArea) loc n, a.MadeIn base root loc n →
    ActsIn base root loc n
      (h.tool.process (c.request.toolOptions (a.outputPath h.backend.kind)) .empty).runOn
  backend : ∀ (a : StagingArea) loc n, a.MadeIn base root loc n →
    ActsIn base root loc n
      (h.backend.execute a
        (Path.join a.path (Driver.Template.select c.spec h.backend.kind).fileName) c.input).runOn

/-- What a stage hands on to the next one is what the bench has made for the area. -/
def Fits (h : Harness) (c : Case) (a : StagingArea) : Stage → Prop
  | .written options => options = c.request.toolOptions (a.outputPath h.backend.kind)
  | .ready _ entry =>
    entry = Path.join a.path (Driver.Template.select c.spec h.backend.kind).fileName
  | _ => True

/-- The case has an area that was made since the host `base`, with a number below `serial`, as long
as it has one at all. -/
structure Owns (h : Harness) (c : Case) (base : Host) (root : Path) (serial : Nat) (p : Progress) :
    Prop where
  area : ∀ a, p.area? = some a →
    ∃ loc n, a.MadeIn base root loc n ∧ n < serial
  fits : ∀ a stage, p = .within a stage → h.Fits c a stage

theorem owns_of_none {serial : Nat} (hnone : p.area? = none) : h.Owns c base root serial p where
  area a ha := by rw [hnone] at ha; cases ha
  fits a stage hp := by rw [hp] at hnone; cases hnone

theorem Owns.mono {serial serial' : Nat} (howns : h.Owns c base root serial p)
    (hle : serial ≤ serial') : h.Owns c base root serial' p where
  area a ha := by
    obtain ⟨loc, n, hmade, hn⟩ := howns.area a ha
    exact ⟨loc, n, hmade, hn.trans_le hle⟩
  fits := howns.fits

/-! ## Work in an area -/

theorem fits_of_work {stage : Stage} {next : Progress}
    (hrun : (h.work c a stage).runOn s = (.ok next, s')) :
    ∀ a' stage', next = .within a' stage' → h.Fits c a' stage' := by
  rintro a' stage' rfl
  cases stage with
  | opened =>
      obtain ⟨options, s₁, hgrammar, hret⟩ := runOn_bind_eq_ok.mp hrun
      obtain ⟨outDir, s₂, hdir, hrest⟩ := runOn_bind_eq_ok.mp hgrammar
      obtain ⟨⟨⟩, s₃, -, hoptions⟩ := runOn_bind_eq_ok.mp hrest
      cases hret
      cases hoptions
      rw [outputDir_eq_ok hdir]
      rfl
  | written options =>
      rw [runOn_work_written] at hrun
      rcases htool : (h.tool.process options .empty).runOn s with ⟨⟨queue, _ | f⟩, s₁⟩
      · rw [htool] at hrun
        cases herrors : queue.hasErrors with
        | true =>
            simp only [herrors, if_true] at hrun
            cases hrun
        | false =>
            simp only [herrors, Bool.false_eq_true, if_false] at hrun
            cases hrun
            trivial
      · rw [htool] at hrun
        cases hrun
  | compiled queue =>
      obtain ⟨path, s₁, -, hret⟩ := runOn_bind_eq_ok.mp hrun
      cases hret
      trivial
  | staged queue =>
      obtain ⟨entry, s₁, hdriver, hret⟩ := runOn_bind_eq_ok.mp hrun
      cases hret
      rw [runOn_writeDriver] at hdriver
      cases hrender : Driver.render c.spec h.backend.kind with
      | error f =>
          rw [hrender] at hdriver
          cases hdriver
      | ok driver =>
          rw [hrender] at hdriver
          exact (writeFile_eq_ok hdriver).1
  | ready queue entry =>
      obtain ⟨result, s₁, -, hret⟩ := runOn_bind_eq_ok.mp hrun
      cases hret

/-- Where a run of the tool leads. -/
def afterTool (a : StagingArea) : DiagnosticQueue × Option Failure → Except Failure Progress
  | (_, some f) => .error f
  | (queue, none) =>
    if queue.hasErrors then .ok (.leaving a (.ok { diagnostics := queue, result := none }))
    else .ok (.within a (.compiled queue))

def toolEvents (c : Case) (options : List String) :
    DiagnosticQueue × Option Failure → List LogEvent
  | (_, some _) => []
  | (queue, none) =>
    c.request.messageEvents options queue ++ if queue.hasErrors then [notCompiledEvent c] else []

/-- Where a run of the backend leads, after the messages of the tool. -/
def afterBackend (a : StagingArea) (queue : DiagnosticQueue) :
    Except Failure ExecutionResult → Except Failure Progress
  | .ok result => .ok (.leaving a (.ok { diagnostics := queue, result := some result }))
  | .error f => .error f

def backendEvents : Except Failure ExecutionResult → List LogEvent
  | .ok _ => []
  | .error f => [failureEvent f]

section Acts

variable (hsound : base.tree.Sound) (hself : h.SelfContained c base root)
  (hmade : a.MadeIn base root loc n)

include hsound hself hmade

theorem actsIn_putGrammar :
    ActsIn base root loc n (h.putGrammar c a).runOn := by
  refine .bind hmade (actsIn_outputDir hsound hmade h.backend.kind) fun outDir s s' hdir => ?_
  rw [outputDir_eq_ok hdir]
  exact .bind hmade (actsIn_writeGrammar hsound hmade (r := c.request) hself.grammar _)
    fun _ _ _ _ => .pure _

/-- Work in an area acts in it, be it done by the bench or by a program. -/
theorem actsIn_work {stage : Stage} (hfits : h.Fits c a stage) :
    ActsIn base root loc n (h.work c a stage).runOn := by
  cases stage with
  | opened => exact .bind hmade (actsIn_putGrammar hsound hself hmade) fun _ _ _ _ => .pure _
  | written options =>
      obtain rfl : options = _ := hfits
      refine ((hself.tool a loc n hmade).andLog (afterTool a)
        (toolEvents c (c.request.toolOptions (a.outputPath h.backend.kind)))).congr fun s _ => ?_
      rw [runOn_work_written]
      rcases (h.tool.process _ .empty).runOn s with ⟨⟨queue, _ | f⟩, s'⟩
      · cases herrors : queue.hasErrors <;> simp [afterTool, toolEvents, herrors]
      · simp [afterTool, toolEvents]
  | compiled queue =>
      exact .bind hmade (actsIn_stageInput hsound hmade c.input) fun _ _ _ _ => .pure _
  | staged queue =>
      exact .bind hmade (actsIn_writeDriver hsound hmade c.spec _) fun _ _ _ _ => .pure _
  | ready queue entry =>
      obtain rfl : entry = _ := hfits
      refine ((hself.backend a loc n hmade).andLog (afterBackend a queue)
        backendEvents).congr fun s _ => ?_
      rw [runOn_work_ready]
      rcases (h.backend.execute a _ c.input).runOn s with ⟨f | result, s'⟩
      · rfl
      · simp [afterBackend, backendEvents]

/-- A step of a case that has an area acts in it. -/
theorem actsIn_advance (harea : p.area? = some a)
    (hfits : ∀ a stage, p = .within a stage → h.Fits c a stage) :
    ActsIn base root loc n fun s => h.advance c (p, s) := by
  cases p with
  | waiting => cases harea
  | ended r => cases harea
  | leaving made r =>
      cases harea
      exact ((actsIn_close hsound hmade).map fun _ => .ended r).congr fun s _ => rfl
  | within made stage =>
      cases harea
      refine ((actsIn_work hsound hself hmade (hfits _ _ rfl)).map
        (fun
          | .ok next => next
          | .error f => .leaving a (.error f))).congr fun s _ => ?_
      rcases hrun : (h.work c a stage).runOn s with ⟨f | next, s'⟩
      · rw [advance_of_error hrun]
      · rw [advance_of_ok hrun]

end Acts

/-! ## One step -/

theorem fits_advance {a' : StagingArea} {stage' : Stage}
    (hnext : (h.advance c (p, s)).1 = .within a' stage') : h.Fits c a' stage' := by
  cases p with
  | waiting =>
      rw [advance] at hnext
      rcases hrun : h.makeArea.runOn s with ⟨f | made, s'⟩ <;> rw [hrun] at hnext <;> cases hnext
      trivial
  | within made stage =>
      rcases hrun : (h.work c made stage).runOn s with ⟨f | next, s'⟩
      · rw [advance_of_error hrun] at hnext
        cases hnext
      · rw [advance_of_ok hrun] at hnext
        exact fits_of_work hrun _ _ hnext
  | leaving made r => cases hnext
  | ended r => cases hnext

/-- The first step makes an area, with a number that was not tried before, or the case ends with
it. What comes of it is the same on hosts where the same numbers were tried. -/
theorem advance_waiting (hsound : base.tree.Sound) (hsettled : withRoot base root = base)
    (hroot : h.config.stagingRoot = root) (hs : base.Grown root s) (hs' : base.Grown root s')
    (hserial : s'.serial = s.serial) :
    (∃ f serial, s.serial ≤ serial
        ∧ h.advance c (.waiting, s) = (.ended (.error f), { s with serial })
        ∧ h.advance c (.waiting, s') = (.ended (.error f), { s' with serial })) ∨
      ∃ a loc n, s.serial ≤ n ∧ a.MadeIn base root loc n
        ∧ h.advance c (.waiting, s) =
          (.within a .opened,
            { s with tree := s.tree.put (loc ++ [dirName n]) .dir, serial := n + 1 })
        ∧ h.advance c (.waiting, s') =
          (.within a .opened,
            { s' with tree := s'.tree.put (loc ++ [dirName n]) .dir, serial := n + 1 }) := by
  rw [advance, advance, makeArea, hroot]
  rcases Host.Grown.create_alike hsound hsettled hs hs' hserial h.config.keepStaging with
    ⟨f, serial, hle, hrun, hrun'⟩ | ⟨a, loc, n, hle, hmade, hrun, hrun'⟩
  · exact .inl ⟨f, serial, hle, by rw [hrun], by rw [hrun']⟩
  · exact .inr ⟨a, loc, n, hle, hmade, by rw [hrun], by rw [hrun']⟩

/-- The first step leads to the same on a host where the root has been made before. -/
theorem advance_withRoot (hroot : h.config.stagingRoot = root) (hsettled : Settled s root) :
    h.advance c (.waiting, withRoot s root) = h.advance c (.waiting, s) := by
  rw [advance, advance, makeArea, hroot, hsettled.runOn_create]

/-- The area is not that of the case. -/
def Spares (p : Progress) (b : StagingArea) : Prop :=
  ∀ a, p.area? = some a → a.path ≠ b.path

/-- What happens on a host while a case comes from one progress to another. -/
structure Comes (h : Harness) (c : Case) (base : Host) (root : Path) (p : Progress) (s : Host)
    (p' : Progress) (s' : Host) : Prop where
  grown : base.Grown root s'
  serial : s.serial ≤ s'.serial
  owns : h.Owns c base root s'.serial p'
  /-- An area of another case remains that, and nothing changes in it. -/
  others : ∀ b loc m, b.MadeIn base root loc m → m < s.serial → Spares p b →
    Spares p' b ∧ SameBelow (loc ++ [dirName m]) s.tree s'.tree

section Step

variable (hsound : base.tree.Sound) (hsettled : withRoot base root = base)
  (hself : h.SelfContained c base root)

include hsound hself

theorem comes_of_area (hs : base.Grown root s)
    (howns : h.Owns c base root s.serial p) (hp : p.area? = some a) :
    h.Comes c base root p s (h.advance c (p, s)).1 (h.advance c (p, s)).2 := by
  obtain ⟨loc, n, hmade, hn⟩ := howns.area a hp
  have hpast : base.GrownPast root n s := ⟨hs, hn⟩
  have hchanges := (actsIn_advance hsound hself hmade hp howns.fits).changes s hpast
  have hnext : ∀ a', (h.advance c (p, s)).1.area? = some a' → a' = a := by
    intro a' ha'
    rcases area?_advance ha' with hsame | ⟨rfl, -⟩
    · exact Option.some.inj (hsame.symm.trans hp)
    · cases hp
  refine ⟨(hpast.of_changesIn hmade hchanges).toGrown, hchanges.serial.ge,
    ⟨?_, fun _ _ => fits_advance⟩, ?_⟩
  · intro a' ha'
    rw [hnext a' ha', hchanges.serial]
    exact ⟨loc, n, hmade, hn⟩
  · intro b loc' m hb _ hspares
    refine ⟨fun a' ha' => ?_, hmade.sameBelow hb ?_ hchanges.outside⟩
    · rw [hnext a' ha']
      exact hspares a hp
    · rintro rfl
      refine hspares a hp ?_
      rw [hmade.new.path, hb.new.path]

include hsettled

/-- **What one step of a case does to the host**, and to the other cases on it. -/
theorem comes_advance (hs : base.Grown root s)
    (howns : h.Owns c base root s.serial p) :
    h.Comes c base root p s (h.advance c (p, s)).1 (h.advance c (p, s)).2 := by
  cases p with
  | within made stage => exact comes_of_area hsound hself hs howns rfl
  | leaving made r => exact comes_of_area hsound hself hs howns rfl
  | ended r => exact ⟨hs, le_refl _, howns, fun _ _ _ _ _ hspares => ⟨hspares, fun _ _ => rfl⟩⟩
  | waiting =>
      rcases advance_waiting (c := c) hsound hsettled hself.stagingRoot hs hs rfl with
        ⟨f, serial, hle, hend, -⟩ | ⟨a, loc, n, hle, hmade, hend, -⟩
      · rw [hend]
        exact ⟨hs.of_same hle, hle, owns_of_none rfl,
          fun _ _ _ _ _ _ => ⟨nofun, fun _ _ => rfl⟩⟩
      · rw [hend]
        have hout : SameOutside (loc ++ [dirName n]) s.tree
            (s.tree.put (loc ++ [dirName n]) .dir) := .put (List.prefix_refl _) _ _
        refine ⟨hs.of_outside hmade ⟨rfl, rfl, rfl, rfl, rfl, rfl⟩ (Nat.le_succ_of_le hle)
          (Nat.lt_succ_self n) hout, Nat.le_succ_of_le hle, ⟨?_, ?_⟩, ?_⟩
        · rintro a' ha'
          cases ha'
          exact ⟨loc, n, hmade, Nat.lt_succ_self n⟩
        · rintro a' stage ha'
          cases ha'
          trivial
        · intro b loc' m hb hm _
          have hne : n ≠ m := by omega
          refine ⟨?_, hmade.sameBelow hb hne hout⟩
          rintro a' ha' hpath
          cases ha'
          exact hne (hmade.number_inj hb hpath)

end Step

/-! ## The same step on another host -/

/-- Two hosts are alike in what a case is concerned with: in its area, or in the numbers that were
tried if it has none yet. -/
structure AlikeFor (base : Host) (root : Path) (p : Progress) (s s' : Host) : Prop where
  serial : p = .waiting → s'.serial = s.serial
  area : ∀ a loc n, p.area? = some a → a.MadeIn base root loc n →
    SameBelow (loc ++ [dirName n]) s.tree s'.tree

theorem alikeFor_ended (r : Except Failure RunOutcome) : AlikeFor base root (.ended r) s s' :=
  ⟨nofun, nofun⟩

/-- **A step of a case notices nothing of the others**: on two hosts that are alike for the case it
leads to the same progress and leaves them alike. -/
theorem advance_alike (hsound : base.tree.Sound)
    (hsettled : withRoot base root = base) (hself : h.SelfContained c base root)
    (hs : base.Grown root s) (hs' : base.Grown root s')
    (howns : h.Owns c base root s.serial p) (howns' : h.Owns c base root s'.serial p)
    (halike : AlikeFor base root p s s') :
    (h.advance c (p, s')).1 = (h.advance c (p, s)).1 ∧
      AlikeFor base root (h.advance c (p, s)).1 (h.advance c (p, s)).2 (h.advance c (p, s')).2 := by
  cases hp : p.area? with
  | some a =>
      obtain ⟨loc, n, hmade, hn⟩ := howns.area a hp
      obtain ⟨loc', n', hmade', hn'⟩ := howns'.area a hp
      obtain ⟨rfl, rfl⟩ := hmade.unique hmade'
      obtain ⟨hresult, hafter⟩ := (actsIn_advance hsound hself hmade hp howns.fits).same s s'
        ⟨hs, hn⟩ ⟨hs', hn'⟩ (halike.area a loc n hp hmade)
      refine ⟨hresult.symm, fun hwaiting => absurd hwaiting (advance_ne_waiting p s), ?_⟩
      intro a' loc' n' ha' hagain
      rcases area?_advance ha' with hsame | ⟨rfl, -⟩
      · obtain rfl : a' = a := Option.some.inj (hsame.symm.trans hp)
        obtain ⟨rfl, rfl⟩ := hmade.unique hagain
        exact hafter
      · cases hp
  | none =>
      cases p with
      | within made stage => cases hp
      | leaving made r => cases hp
      | ended r => exact ⟨rfl, alikeFor_ended r⟩
      | waiting =>
          have hserial := halike.serial rfl
          rcases advance_waiting (c := c) hsound hsettled hself.stagingRoot hs hs' hserial with
            ⟨f, serial, -, hend, hend'⟩ | ⟨a, loc, n, hle, hmade, hend, hend'⟩
          · rw [hend, hend']
            exact ⟨rfl, alikeFor_ended _⟩
          · rw [hend, hend']
            refine ⟨rfl, nofun, ?_⟩
            intro a' loc' n' ha' hagain
            cases ha'
            obtain ⟨rfl, rfl⟩ := hmade.unique hagain
            refine SameBelow.put ?_ _ _
            rintro l ⟨rest, rfl⟩
            -- Nothing with this number has changed on either host.
            rw [List.append_assoc, List.singleton_append, hs.ahead hmade.canHold hle,
              hs'.ahead hmade.canHold (hserial.trans_le hle)]

/-! ## The whole case -/

section Run

variable (hsound : base.tree.Sound) (hsettled : withRoot base root = base)
  (hself : h.SelfContained c base root) (hs : base.Grown root s)

include hsound hsettled hself hs

theorem comes_steps (n : Nat) :
    base.Grown root (h.steps c s n).2
      ∧ h.Owns c base root (h.steps c s n).2.serial (h.steps c s n).1 := by
  induction n with
  | zero => exact ⟨hs, owns_of_none rfl⟩
  | succ n ih =>
      have hcomes := comes_advance hsound hsettled hself ih.1 ih.2
      rw [steps_succ]
      exact ⟨hcomes.grown, hcomes.owns⟩

theorem steps_alike (hs' : base.Grown root s') (hserial : s'.serial = s.serial) (n : Nat) :
    (h.steps c s' n).1 = (h.steps c s n).1
      ∧ AlikeFor base root (h.steps c s n).1 (h.steps c s n).2 (h.steps c s' n).2 := by
  induction n with
  | zero => exact ⟨rfl, fun _ => hserial, nofun⟩
  | succ n ih =>
      have hstands := comes_steps hsound hsettled hself hs n
      have hstands' := comes_steps hsound hsettled hself hs' n
      rw [ih.1] at hstands'
      have hpair : h.steps c s' n = ((h.steps c s n).1, (h.steps c s' n).2) := Prod.ext ih.1 rfl
      rw [steps_succ, steps_succ, hpair]
      exact advance_alike hsound hsettled hself hstands.1 hstands'.1 hstands.2 hstands'.2 ih.2

end Run

theorem steps_withRoot (hroot : h.config.stagingRoot = root) (hsettled : Settled s root) (n : Nat) :
    h.steps c (withRoot s root) (n + 1) = h.steps c s (n + 1) := by
  rw [steps, steps, Function.iterate_succ_apply, Function.iterate_succ_apply,
    advance_withRoot hroot hsettled]

/-- A root that cannot be made is the failure of the case. -/
theorem exec_of_root_error {bench : Bench} {fault : IoFault}
    (hroot : (bench.host.tree.makeDirs bench.host.cwd h.config.stagingRoot).1 = .error fault) :
    ((h.exec c).runOn bench).1 = .error (.io fault) := by
  refine (eq_of_steps (n := 1) ?_).symm
  rw [steps_succ, steps_zero, advance, makeArea, runOn_create]
  rcases hmade : bench.host.tree.makeDirs bench.host.cwd h.config.stagingRoot with ⟨r, tree⟩
  rw [hmade] at hroot
  obtain rfl : r = .error fault := hroot
  rfl

/-! ## Small cases -/

/-- A program that does nothing but give its result does it wherever it is. -/
theorem TwoCalls.selfContained (root : Path) (keep : Bool) (base : Host) :
    (TwoCalls.harness root keep).SelfContained TwoCalls.call.subject base root :=
  ⟨rfl, ⟨by decide, by decide, by decide⟩, fun _ _ _ _ => .pure _, fun _ _ _ _ => .pure _⟩

namespace SmallRuns

/-- The backend puts the input into a file of the area and gives it as output. -/
def harness (keep : Bool) : Harness where
  config := { HarnessConfig.standard "/s" with keepStaging := keep }
  tool := ⟨fun _ queue => return (queue, none)⟩
  backend := ⟨.process, fun a _ input => do
    let _ ← a.writeFile "copy" input
    return .ofChannels input ""⟩

def subject (input : String) : Case :=
  .lexer ⟨"L.g4", "lexer grammar L;", "L", input, false⟩

theorem sound_host : TwoCalls.host.tree.Sound :=
  sound_of_entries (by decide)

theorem settled_host : Settled TwoCalls.host "/s" :=
  settled_of_made (by decide +kernel)

theorem selfContained (keep : Bool) (input : String) :
    (harness keep).SelfContained (subject input) (withRoot TwoCalls.host "/s") "/s" where
  stagingRoot := rfl
  grammar := (⟨by decide, by decide, by decide⟩ : Path.IsComponent "L.g4")
  tool _ _ _ _ := .pure _
  backend _ _ _ hmade :=
    .bind hmade (actsIn_writeFile sound_host.makeDirs hmade ⟨by decide, by decide, by decide⟩ _)
      fun _ _ _ _ => .pure _

end SmallRuns

namespace HalfMade

/-- The path of a root that leads through a missing directory and back, and then through a file. -/
def path : Path := "/x/../f/y"

def host : Host :=
  { TwoCalls.host with tree := ⟨[(["f"], .file [])]⟩ }

theorem sound_host : host.tree.Sound :=
  sound_of_entries (by decide)

/-- The first attempt to make the root fails at the file, and it has made the directory. -/
theorem makeDirs_path :
    host.tree.makeDirs [] path =
      (.error .alreadyExists, ⟨[(["x"], .dir), (["f"], .file [])]⟩) := by
  decide +kernel

end HalfMade

end Harness

end GrammarBench
