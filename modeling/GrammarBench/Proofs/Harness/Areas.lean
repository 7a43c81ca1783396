import GrammarBench.Proofs.Harness.Session
import GrammarBench.Proofs.Staging.Lifetime
import Mathlib.Data.List.Nodup

/-!
# The areas that a session leaves

A case works in an area of its own, which is given up on every way out (`exec_areaInUse`). So the
areas below the staging root are after a session what they were before it, or they are to be kept:
then each call that could make an area has added exactly one, with a name that was not in use
(`session_areas`).

What is taken for granted of a call is said by `OrderlyCase`: the tool and the backend leave the
areas alone, and making the staging root makes no area. The last needs saying. A root that is
missing is made with every directory on its path, and that path may lead through a directory below
the root itself (`area_left_by_root`).
-/

namespace GrammarBench

open StagingArea

namespace Harness

variable {h : Harness} {c : Case} {s s' : Host} {area : StagingArea} {options : List String}
  {atTool : Host} {queue : DiagnosticQueue}

/-! ## One case -/

/-- What is taken for granted of a case on the host `s`. -/
structure OrderlyCase (h : Harness) (c : Case) (s : Host) : Prop where
  root : MakesNoArea s h.config.stagingRoot
  tool : ∀ area options atTool, h.Prepared c s area options atTool →
    area.LeavesAreas h.config.stagingRoot atTool
      ((h.tool.process options .empty).runOn atTool).2
  backend : ∀ area options atTool queue driver entry atCall,
    h.Ready c s area options atTool queue driver entry atCall →
    area.LeavesAreas h.config.stagingRoot atCall
      ((h.backend.execute area entry c.input).runOn atCall).2

/-- A case that runs on the host `s` has made its area, and it is in use on the host `s'`. -/
structure AreaInUse (h : Harness) (area : StagingArea) (s s' : Host) : Prop where
  made : ∃ s₁, h.makeArea.runOn s = (.ok area, s₁)
  inUse : ∃ loc own, area.InUse h.config.stagingRoot loc own (withRoot s h.config.stagingRoot) s'

namespace AreaInUse

variable {s₁ s₂ : Host}

theorem of_makeArea (hmade : h.makeArea.runOn s = (.ok area, s₁)) : h.AreaInUse area s s₁ :=
  ⟨⟨s₁, hmade⟩, (inUse_of_create hmade).2⟩

theorem of_confined {α : Type} {action : HostAction α} {r : Except Failure α}
    (huse : h.AreaInUse area s s₁) (hconfined : ∀ loc, area.Confined loc action)
    (hrun : action.runOn s₁ = (r, s₂)) : h.AreaInUse area s s₂ := by
  obtain ⟨hmade, loc, own, huse⟩ := huse
  exact ⟨hmade, loc, own, huse.of_confined (hconfined _) hrun⟩

theorem of_leavesAreas (huse : h.AreaInUse area s s₁)
    (hleaves : area.LeavesAreas h.config.stagingRoot s₁ s₂) : h.AreaInUse area s s₂ := by
  obtain ⟨hmade, loc, own, huse⟩ := huse
  exact ⟨hmade, loc, own, huse.of_leavesAreas hleaves⟩

theorem logging (huse : h.AreaInUse area s s₁) (events : List LogEvent) :
    h.AreaInUse area s (s₁.logging events) := by
  obtain ⟨hmade, loc, own, huse⟩ := huse
  exact ⟨hmade, loc, own, huse.logging events⟩

end AreaInUse

theorem confined_putGrammar (loc : Location) : area.Confined loc (h.putGrammar c area) := by
  refine (confined_outputDir h.backend.kind).bind fun outDir s s' hdir => ?_
  rw [outputDir_eq_ok hdir]
  exact (confined_writeGrammar c.request h.backend.kind).bind fun _ _ _ _ => .pure _

theorem confined_writeDriverFile (template : Driver.Template) (text : String) (loc : Location) :
    area.Confined loc (area.writeFile template.fileName text) :=
  confined_writeFile (by cases template <;> decide) (by cases template <;> decide) text

theorem Prepared.areaInUse (hprepared : h.Prepared c s area options atTool) :
    h.AreaInUse area s atTool := by
  obtain ⟨s₁, harea, hgrammar⟩ := hprepared
  exact (AreaInUse.of_makeArea harea).of_confined confined_putGrammar hgrammar

section Orderly

variable (hcase : h.OrderlyCase c s)

include hcase

theorem Compiled.areaInUse (hcompiled : h.Compiled c s area options atTool queue s') :
    h.AreaInUse area s s' := by
  obtain ⟨hprepared, s₁, htool, rfl⟩ := hcompiled
  have hleaves := hcase.tool _ _ _ hprepared
  rw [htool] at hleaves
  exact (hprepared.areaInUse.of_leavesAreas hleaves).logging _

theorem Staged.areaInUse (hstaged : h.Staged c s area options atTool queue s') :
    h.AreaInUse area s s' := by
  obtain ⟨-, s₁, path, hcompiled, hinput⟩ := hstaged
  exact (hcompiled.areaInUse hcase).of_confined (fun _ => confined_stageInput c.input) hinput

theorem Ready.areaInUse {driver : String} {entry : Path} {atCall : Host}
    (hready : h.Ready c s area options atTool queue driver entry atCall) :
    h.AreaInUse area s atCall := by
  obtain ⟨-, s₁, hstaged, hdriver⟩ := hready
  exact (hstaged.areaInUse hcase).of_confined (confined_writeDriverFile _ driver) hdriver

end Orderly

/-- Whatever becomes of a case, its area is in use until it is given up, and that is the last thing
that is done on the host. -/
theorem exec_areaInUse {b : Bench} (hcase : h.OrderlyCase c b.host) :
    (∃ f, h.makeArea.runOn b.host = (.error f, ((h.exec c).runOn b).2.host)) ∨
      ∃ area s, h.AreaInUse area b.host s ∧ ((h.exec c).runOn b).2.host = area.closed s := by
  have hrun := h.exec_caseRun c b
  generalize (h.exec c).runOn b = after at hrun ⊢
  obtain ⟨r, b'⟩ := after
  cases hrun with
  | noArea harea => exact .inl ⟨_, harea⟩
  | noGrammar harea hgrammar =>
      have huse := (AreaInUse.of_makeArea harea).of_confined confined_putGrammar hgrammar
      exact .inr ⟨_, _, huse, rfl⟩
  | toolFailed hprepared htool =>
      have hleaves := hcase.tool _ _ _ hprepared
      rw [htool] at hleaves
      exact .inr ⟨_, _, hprepared.areaInUse.of_leavesAreas hleaves, rfl⟩
  | notCompiled hcompiled _ =>
      exact .inr ⟨_, _, (hcompiled.areaInUse hcase).logging _, rfl⟩
  | noInput hcompiled _ hinput =>
      have huse := (hcompiled.areaInUse hcase).of_confined
        (fun _ => confined_stageInput c.input) hinput
      exact .inr ⟨_, _, huse, rfl⟩
  | notRendered hstaged _ =>
      exact .inr ⟨_, _, hstaged.areaInUse hcase, rfl⟩
  | noDriver hstaged _ hdriver =>
      have huse := (hstaged.areaInUse hcase).of_confined (confined_writeDriverFile _ _) hdriver
      exact .inr ⟨_, _, huse, rfl⟩
  | notRun hready hexecute =>
      have hleaves := hcase.backend _ _ _ _ _ _ _ hready
      rw [hexecute] at hleaves
      exact .inr ⟨_, _, ((hready.areaInUse hcase).of_leavesAreas hleaves).logging _, rfl⟩
  | done hready hexecute =>
      have hleaves := hcase.backend _ _ _ _ _ _ _ hready
      rw [hexecute] at hleaves
      exact .inr ⟨_, _, (hready.areaInUse hcase).of_leavesAreas hleaves, rfl⟩

/-- What is left below the root when areas were made at the paths `made`, seen from the host before:
what was there and, if areas are to be kept, a new area for each of the paths. -/
structure LeavesBehind (h : Harness) (s s' : Host) (made : List Path) : Prop where
  cwd : s'.cwd = s.cwd
  kept : AreasKept h.config.stagingRoot s s'
  removed : h.config.keepStaging = false →
    areas s' h.config.stagingRoot = areas s h.config.stagingRoot
  retained : h.config.keepStaging = true →
    ∃ names : List String, made = names.map (Path.join (s.rootPath h.config.stagingRoot))
      ∧ names.Nodup ∧ (∀ name ∈ names, name ∉ areas s h.config.stagingRoot)
      ∧ areas s' h.config.stagingRoot =
        areas s h.config.stagingRoot ∪ {name | name ∈ names}

namespace LeavesBehind

variable {s₁ s₂ : Host} {made made' : List Path}

theorem refl (h : Harness) (s : Host) : h.LeavesBehind s s [] where
  cwd := rfl
  kept := .of_keeps rfl (.of_nodes fun _ _ hnode => hnode)
  removed _ := rfl
  retained _ := ⟨[], rfl, .nil, by simp, by simp⟩

theorem trans (hfirst : h.LeavesBehind s s₁ made) (hrest : h.LeavesBehind s₁ s₂ made') :
    h.LeavesBehind s s₂ (made ++ made') where
  cwd := hrest.cwd.trans hfirst.cwd
  kept := hfirst.kept.trans hrest.kept
  removed hkeep := (hrest.removed hkeep).trans (hfirst.removed hkeep)
  retained hkeep := by
    obtain ⟨names, rfl, hnodup, hnew, hareas⟩ := hfirst.retained hkeep
    obtain ⟨names', rfl, hnodup', hnew', hareas'⟩ := hrest.retained hkeep
    rw [hareas] at hnew' hareas'
    refine ⟨names ++ names', ?_, List.nodup_append'.mpr ⟨hnodup, hnodup', ?_⟩, ?_, ?_⟩
    · rw [List.map_append, Host.rootPath_of_cwd hfirst.cwd]
    · exact fun name hname hname' => hnew' name hname' (.inr hname)
    · intro name hname
      rcases List.mem_append.mp hname with hname | hname
      · exact hnew name hname
      · exact fun hthere => hnew' name hname (.inl hthere)
    · rw [hareas', Set.union_assoc]
      congr 1
      ext name
      simp

end LeavesBehind

/-- The path of the area that a call makes on the host `s`, if it can make one. -/
def madeArea (h : Harness) (s : Host) : List Path :=
  match (h.makeArea.runOn s).1 with
  | .ok area => [area.path]
  | .error _ => []

theorem AreaInUse.leavesBehind_closed (huse : h.AreaInUse area s s')
    (hroot : MakesNoArea s h.config.stagingRoot) :
    h.LeavesBehind s (area.closed s') (h.madeArea s) := by
  obtain ⟨⟨s₁, hmade⟩, loc, own, huse⟩ := huse
  have hone : h.madeArea s = [area.path] := by rw [madeArea, hmade]
  have hkeep : area.keep = h.config.keepStaging := (inUse_of_create hmade).1
  have hwith : AreasKept h.config.stagingRoot s (withRoot s h.config.stagingRoot) :=
    .of_keeps rfl (keeps_withRoot s _)
  have hcwd := (cwd_closed area s').trans huse.cwd
  rw [hone]
  cases hk : area.keep with
  | false =>
      refine ⟨hcwd, hwith.trans (huse.kept_closed hk), fun _ => ?_, fun htrue => ?_⟩
      · rw [huse.areas_closed hk, hroot]
      · rw [← hkeep, hk] at htrue
        cases htrue
  | true =>
      have huse := huse.closed_of_keep hk
      refine ⟨hcwd, hwith.trans huse.kept, fun hfalse => ?_, fun _ => ?_⟩
      · rw [← hkeep, hk] at hfalse
        cases hfalse
      · have hnew := huse.new.not_mem_areas
        have hareas := huse.areas
        rw [hroot] at hnew hareas
        refine ⟨[own], by rw [huse.new.path]; rfl, List.nodup_singleton own, by simpa using hnew,
          ?_⟩
        rw [hareas]
        ext name
        simp [or_comm]

/-- **What one case leaves below the root.** -/
theorem leavesBehind_exec {b : Bench} (hcase : h.OrderlyCase c b.host) :
    h.LeavesBehind b.host ((h.exec c).runOn b).2.host (h.madeArea b.host) := by
  rcases exec_areaInUse hcase with ⟨f, hmade⟩ | ⟨area, s, huse, hafter⟩
  · have hnone : h.madeArea b.host = [] := by rw [madeArea, hmade]
    obtain ⟨hcwd, hkeeps, hareas⟩ := areas_of_create_error hmade
    rw [hcase.root] at hareas
    rw [hnone]
    exact ⟨hcwd, .of_keeps hcwd hkeeps, fun _ => hareas,
      fun _ => ⟨[], rfl, .nil, by simp, by simp [hareas]⟩⟩
  · rw [hafter]
    exact huse.leavesBehind_closed hcase.root

/-! ## Sessions of cases -/

/-- A call for a case, and the programs that it meets. -/
structure CaseCall where
  subject : Case
  tool : GrammarTool
  execute : StagingArea → Path → String → HostAction ExecutionResult

/-- Nothing but the calls happens on the host. -/
def CaseCall.turn (k : CaseCall) : Turn where
  job := .case k.subject
  meanwhile := id
  tool := k.tool
  execute := k.execute

/-- The bench after calls for cases. -/
def caseSession (h : Harness) (b : Bench) (calls : List CaseCall) : Bench :=
  h.session b (calls.map CaseCall.turn)

/-- Each call is orderly on the host that the calls before it have left. -/
def Orderly (h : Harness) (b : Bench) : List CaseCall → Prop
  | [] => True
  | k :: rest =>
    (h.during k.turn).OrderlyCase k.subject b.host ∧ h.Orderly (h.caseSession b [k]) rest

/-- The paths of the areas that the calls make, in their order. -/
def madeAreas (h : Harness) (b : Bench) : List CaseCall → List Path
  | [] => []
  | k :: rest => h.madeArea b.host ++ h.madeAreas (h.caseSession b [k]) rest

variable {b : Bench} {k : CaseCall} {calls : List CaseCall}

theorem caseSession_cons (h : Harness) (b : Bench) (k : CaseCall) (rest : List CaseCall) :
    h.caseSession b (k :: rest) = h.caseSession (h.caseSession b [k]) rest := rfl

theorem caseSession_single (h : Harness) (b : Bench) (k : CaseCall) :
    h.caseSession b [k] = (((h.during k.turn).exec k.subject).runOn b).2 := by
  have hanswer := runOn_answer_case (h := h.during k.turn) k.subject b
  exact congrArg Prod.snd hanswer

theorem orderly_append {before after : List CaseCall} :
    h.Orderly b (before ++ after) ↔
      h.Orderly b before ∧ h.Orderly (h.caseSession b before) after := by
  induction before generalizing b with
  | nil => exact ⟨fun horderly => ⟨trivial, horderly⟩, fun horderly => horderly.2⟩
  | cons k rest ih =>
      rw [List.cons_append, Orderly, Orderly, ih, and_assoc, ← caseSession_cons]

theorem leavesBehind_call (hcase : (h.during k.turn).OrderlyCase k.subject b.host) :
    h.LeavesBehind b.host (h.caseSession b [k]).host (h.madeArea b.host) := by
  have hleaves := leavesBehind_exec hcase
  rw [caseSession_single]
  exact ⟨hleaves.cwd, hleaves.kept, hleaves.removed, hleaves.retained⟩

/-- **The areas after a session of cases** are those that were there before, and if areas are to be
kept, one more for each call that could make one. No call takes anything from the areas that it
finds. -/
theorem session_areas (h : Harness) (b : Bench) (calls : List CaseCall)
    (horderly : h.Orderly b calls) :
    h.LeavesBehind b.host (h.caseSession b calls).host (h.madeAreas b calls)
      ∧ ∀ before k after, calls = before ++ k :: after →
        AreasKept h.config.stagingRoot (h.caseSession b before).host
          (h.caseSession b (before ++ [k])).host := by
  constructor
  · induction calls generalizing b with
    | nil => exact .refl h b.host
    | cons k rest ih =>
        obtain ⟨hcase, hrest⟩ := horderly
        rw [caseSession_cons]
        exact (leavesBehind_call hcase).trans (ih _ hrest)
  · rintro before k after rfl
    obtain ⟨-, hcase, -⟩ := orderly_append.mp horderly
    have hlast : h.caseSession b (before ++ [k]) = h.caseSession (h.caseSession b before) [k] := by
      rw [caseSession, List.map_append, session_append]
      rfl
    rw [hlast]
    exact (leavesBehind_call hcase).kept

/-! ## A root that is there -/

/-- The programs of a call leave the areas alone on every host. -/
structure CaseCall.Tame (k : CaseCall) (root : Path) : Prop where
  tool : ∀ (area : StagingArea) options s,
    area.LeavesAreas root s ((k.tool.process options .empty).runOn s).2
  backend : ∀ (area : StagingArea) entry input s,
    area.LeavesAreas root s ((k.execute area entry input).runOn s).2

theorem AreaInUse.isRoot_closed (huse : h.AreaInUse area s s') :
    ∃ loc, (area.closed s').IsRoot h.config.stagingRoot loc := by
  obtain ⟨-, loc, own, huse⟩ := huse
  cases hkeep : area.keep with
  | false => exact ⟨loc, huse.isRoot_closed hkeep⟩
  | true => exact ⟨loc, (huse.closed_of_keep hkeep).isRoot⟩

theorem isRoot_exec {loc : Location} (hcase : h.OrderlyCase c b.host)
    (hroot : b.host.IsRoot h.config.stagingRoot loc) :
    ∃ loc, ((h.exec c).runOn b).2.host.IsRoot h.config.stagingRoot loc := by
  rcases exec_areaInUse hcase with ⟨f, hmade⟩ | ⟨area, s, huse, hafter⟩
  · obtain ⟨hcwd, hkeeps, -⟩ := areas_of_create_error hmade
    exact ⟨loc, hroot.of_keeps hcwd hkeeps⟩
  · rw [hafter]
    exact huse.isRoot_closed

/-- Where the root is there, calls are orderly if their programs are tame. -/
theorem orderly_of_isRoot (habs : h.config.stagingRoot.isAbsolute = true) {loc : Location}
    (hroot : b.host.IsRoot h.config.stagingRoot loc)
    (htame : ∀ k ∈ calls, k.Tame h.config.stagingRoot) : h.Orderly b calls := by
  induction calls generalizing b loc with
  | nil => trivial
  | cons k rest ih =>
      have hk := htame k List.mem_cons_self
      have hcase : (h.during k.turn).OrderlyCase k.subject b.host :=
        ⟨makesNoArea_of_isRoot habs hroot, fun area options atTool _ => hk.tool area options atTool,
          fun area _ _ _ _ entry atCall _ => hk.backend area entry _ atCall⟩
      obtain ⟨loc', hroot'⟩ := isRoot_exec hcase hroot
      rw [← caseSession_single] at hroot'
      exact ⟨hcase, ih hroot' fun k hmem => htame k (List.mem_cons_of_mem _ hmem)⟩

/-! ## Small sessions -/

namespace TwoCalls

def harness (root : Path) (keep : Bool) : Harness where
  config := { HarnessConfig.standard root with keepStaging := keep }
  tool := ⟨fun _ queue => return (queue, none)⟩
  backend := ⟨.process, fun _ _ _ => return .ofChannels "" ""⟩

/-- A call whose programs do nothing. -/
def call : CaseCall where
  subject := .lexer ⟨"L.g4", "lexer grammar L;", "L", "a", false⟩
  tool := ⟨fun _ queue => return (queue, none)⟩
  execute := fun _ _ _ => return .ofChannels "" ""

def host : Host where
  system := "Linux"
  tree := ⟨[(["s"], .dir), (["s", "gramtest-000000"], .dir)]⟩
  cwd := []
  serial := 0
  ports := []
  traffic := []
  log := []

theorem call_tame (root : Path) : call.Tame root :=
  ⟨fun _ _ _ => .of_same rfl rfl, fun _ _ _ _ => .of_same rfl rfl⟩

end TwoCalls

open TwoCalls in
theorem session_areas_twoCalls :
    (harness "/s" true).Orderly (.fresh host) [call, call]
      ∧ (harness "/s" true).LeavesBehind host
        ((harness "/s" true).caseSession (.fresh host) [call, call]).host
        ["/s/gramtest-000001", "/s/gramtest-000002"] := by
  have hroot : host.IsRoot "/s" ["s"] := ⟨by decide +kernel, by decide +kernel⟩
  have horderly : (harness "/s" true).Orderly (.fresh host) [call, call] :=
    orderly_of_isRoot rfl hroot fun k hk => by
      simp only [List.mem_cons, List.not_mem_nil, or_false, or_self] at hk
      exact hk ▸ call_tame _
  have hmade : (harness "/s" true).madeAreas (.fresh host) [call, call]
      = ["/s/gramtest-000001", "/s/gramtest-000002"] := by decide +kernel
  exact ⟨horderly, hmade ▸ (session_areas _ _ _ horderly).1⟩

open TwoCalls in
/-- A root that is missing and whose path leads through a directory below it: the call gives up its
area, but that directory has been made and stays. -/
theorem area_left_by_root :
    (harness "/s/gramtest-q/.." false).config.keepStaging = false
      ∧ call.Tame "/s/gramtest-q/.."
      ∧ "gramtest-q" ∉ areas host "/s/gramtest-q/.."
      ∧ "gramtest-q" ∈ areas
        ((harness "/s/gramtest-q/.." false).caseSession (.fresh host) [call]).host
        "/s/gramtest-q/.." := by
  have hbefore : "gramtest-q" ∉ areas host "/s/gramtest-q/.." := by
    rintro ⟨-, loc, hroot, -⟩
    have hmissing : host.tree.locate host.cwd (host.rootPath "/s/gramtest-q/..")
        = .error .notFound := by decide +kernel
    rw [hroot.locate] at hmissing
    cases hmissing
  have hleft : ∀ s : Host, (s.cwd, s.tree) = ([], ⟨[(["s", "gramtest-q"], .dir), (["s"], .dir),
      (["s", "gramtest-000000"], .dir)]⟩) → "gramtest-q" ∈ areas s "/s/gramtest-q/.." := by
    intro s hs
    obtain ⟨hcwd, htree⟩ := Prod.mk.inj hs
    refine ⟨by decide, ["s"], ⟨?_, ?_⟩, ?_⟩
    · rw [Host.rootPath, hcwd, htree]
      decide +kernel
    · rw [htree]
      decide
    · rw [htree]
      decide
  exact ⟨rfl, call_tame _, hbefore, hleft _ (by decide +kernel)⟩

end Harness

end GrammarBench
