import GrammarBench.CommandLine.Run
import GrammarBench.Proofs.Text.Words

/-!
# Settings that the environment overrides

Five settings may come from the environment, each from a variable of its own, and the others never
do (`Overridden`). Nothing of the old settings matters where a variable gives a value. So with an
interpreter, a runtime and a tool in the environment every configuration can be run, on either kind
of backend: the blank test and the splitter go by one class of characters, so the command of a tool
that is not blank has a program, and no part of it is empty (`withEnvironment_contract`).
-/

namespace GrammarBench

open Text

/-- The variable has a value that is not blank. -/
def Environment.Gives (env : Environment) (name value : String) : Prop :=
  env name = some value ∧ ∃ c ∈ value.toList, isBlank c = false

theorem Environment.given?_eq_some {env : Environment} {name value : String} :
    env.given? name = some value ↔ env.Gives name value := by
  rw [given?, Option.filter_eq_some_iff, Gives]
  simp [allBlank]

/-- A setting that a variable overrides: it is what the value of the variable says, if the variable
gives one, and otherwise it is as it was. -/
structure OverriddenBy {α : Type} (env : Environment) (name : String) (means : String → α → Prop)
    (old new : α) : Prop where
  given : ∀ value, env.Gives name value → means value new
  otherwise : (∀ value, ¬env.Gives name value) → new = old

theorem OverriddenBy.of_given? {α : Type} {env : Environment} {name : String}
    {means : String → α → Prop} {old new : α}
    (hsome : ∀ value, env.given? name = some value → means value new)
    (hnone : env.given? name = none → new = old) : OverriddenBy env name means old new where
  given value hvalue := hsome value (Environment.given?_eq_some.mpr hvalue)
  otherwise hno := by
    refine hnone (Option.eq_none_iff_forall_not_mem.mpr fun value hvalue => ?_)
    exact hno value (Environment.given?_eq_some.mp hvalue)

namespace HarnessConfig

/-- The settings `c'` are those of `c` where the environment gives none. -/
structure Overridden (env : Environment) (c c' : HarnessConfig) : Prop where
  interpreterPath : OverriddenBy env overrides.interpreter (fun value new => new = some value)
    c.interpreterPath c'.interpreterPath
  runtimePath : OverriddenBy env overrides.runtime (fun value new => new = some value)
    c.runtimePath c'.runtimePath
  remoteUrl : OverriddenBy env overrides.remote (fun value new => new = value)
    c.browser.remoteUrl c'.browser.remoteUrl
  stagingRoot : OverriddenBy env overrides.stagingRoot (fun value new => new = value)
    c.stagingRoot c'.stagingRoot
  /-- The command of the tool is the words of the value. -/
  toolCommand : OverriddenBy env overrides.tool
    (fun value new => WordsOf value.toList (new.map String.toList)) c.toolCommand c'.toolCommand
  keepStaging : c'.keepStaging = c.keepStaging
  port : c'.browser.port = c.browser.port
  browserName : c'.browser.browserName = c.browser.browserName
  requiredOs : c'.browser.requiredOs = c.browser.requiredOs

theorem overridden_withEnvironment (c : HarnessConfig) (env : Environment) :
    Overridden env c (c.withEnvironment env) where
  interpreterPath := .of_given? (fun value h => by simp [withEnvironment, h])
    fun h => by simp [withEnvironment, h]
  runtimePath := .of_given? (fun value h => by simp [withEnvironment, h])
    fun h => by simp [withEnvironment, h]
  remoteUrl := .of_given? (fun value h => by simp [withEnvironment, h])
    fun h => by simp [withEnvironment, h]
  stagingRoot := .of_given? (fun value h => by simp [withEnvironment, h])
    fun h => by simp [withEnvironment, h]
  toolCommand := .of_given? (fun value h => wordsOf_iff.mpr (by simp [withEnvironment, h]))
    fun h => by simp [withEnvironment, h]
  keepStaging := rfl
  port := rfl
  browserName := rfl
  requiredOs := rfl

/-- What the environment gave once, it gives again. -/
theorem withEnvironment_withEnvironment (c : HarnessConfig) (env : Environment) :
    (c.withEnvironment env).withEnvironment env = c.withEnvironment env := by
  have hgetD : ∀ {α : Type} (given : Option α) (old : α), given.getD (given.getD old)
      = given.getD old := by
    rintro α (_ | value) old <;> rfl
  have horElse : ∀ {α : Type} (given old : Option α), (given <|> (given <|> old))
      = (given <|> old) := by
    rintro α (_ | value) old <;> rfl
  simp only [withEnvironment, hgetD, horElse]

/-! ## Settings that can be run -/

/-- All that a run needs is there, for either kind of backend, and no part of the command of the
tool is empty. -/
structure Runnable (c : HarnessConfig) : Prop where
  interpreter : ∃ path, c.interpreter = .ok path ∧ path ≠ ""
  runtime : ∃ path, c.runtime = .ok path ∧ path ≠ ""
  tool : ∃ program args, c.tool = .ok (program, args) ∧ program ≠ "" ∧ ∀ arg ∈ args, arg ≠ ""
  harness : ∀ (outside : Outside) (kind : BackendKind),
    ∃ h, Harness.ofConfig outside c kind = .ok h ∧ h.config = c ∧ h.backend.kind = kind

theorem ne_empty_of_gives {env : Environment} {name value : String}
    (h : env.Gives name value) : value ≠ "" := by
  rintro rfl
  obtain ⟨-, c, hc, -⟩ := h
  cases hc

theorem exists_ofConfig {c : HarnessConfig} {interpreter runtime : Path} {program : String}
    {args : List String} (hinterpreter : c.interpreter = .ok interpreter)
    (hruntime : c.runtime = .ok runtime) (htool : c.tool = .ok (program, args)) (outside : Outside)
    (kind : BackendKind) :
    ∃ h, Harness.ofConfig outside c kind = .ok h ∧ h.config = c ∧ h.backend.kind = kind := by
  have hcommand : CommandTool.ofConfig c = .ok ⟨program, args⟩ := by
    rw [CommandTool.ofConfig, htool]
    rfl
  cases kind with
  | process =>
      have hprocess : Interpreter.ofConfig c = .ok ⟨interpreter, runtime⟩ := by
        rw [Interpreter.ofConfig, hinterpreter, hruntime]
        rfl
      rw [Harness.ofConfig, Backend.ofConfig, hcommand, hprocess]
      exact ⟨_, rfl, rfl, rfl⟩
  | browser =>
      have hbrowser : Browser.ofConfig c = .ok ⟨c.browser, runtime⟩ := by
        rw [Browser.ofConfig, hruntime]
        rfl
      rw [Harness.ofConfig, Backend.ofConfig, hcommand, hbrowser]
      exact ⟨_, rfl, rfl, rfl⟩

/-- What the environment gives is enough. -/
theorem runnable_of_gives {env : Environment} {c c' : HarnessConfig} (h : Overridden env c c')
    {interpreter runtime command : String}
    (hinterpreter : env.Gives overrides.interpreter interpreter)
    (hruntime : env.Gives overrides.runtime runtime) (htool : env.Gives overrides.tool command) :
    Runnable c' := by
  have hpath : ∀ {path : String}, path ≠ "" → given? (some path) = some path := by
    intro path hne
    simpa [given?] using hne
  have hinterpreter' : c'.interpreter = .ok interpreter := by
    rw [HarnessConfig.interpreter, h.interpreterPath.given _ hinterpreter,
      hpath (ne_empty_of_gives hinterpreter)]
  have hruntime' : c'.runtime = .ok runtime := by
    rw [HarnessConfig.runtime, h.runtimePath.given _ hruntime, hpath (ne_empty_of_gives hruntime)]
  have hwords := wordsOf_iff.mp (h.toolCommand.given _ htool)
  have hsome : words command ≠ [] := by
    obtain ⟨-, c, hc, hfree⟩ := htool
    refine words_ne_nil (Bool.eq_false_iff.mpr fun hblank => ?_)
    rw [List.all_eq_true.mp hblank c hc] at hfree
    cases hfree
  obtain ⟨program, args, hcommand⟩ := List.exists_cons_of_ne_nil hsome
  have htool' : c'.tool = .ok (program, args) := by
    rw [HarnessConfig.tool, hwords, hcommand]
  have hfull : ∀ word ∈ program :: args, word ≠ "" := fun word hmem =>
    ne_empty_of_mem_words (hcommand ▸ hmem)
  rw [List.forall_mem_cons] at hfull
  exact ⟨⟨interpreter, hinterpreter', ne_empty_of_gives hinterpreter⟩,
    ⟨runtime, hruntime', ne_empty_of_gives hruntime⟩, ⟨program, args, htool', hfull⟩,
    exists_ofConfig hinterpreter' hruntime' htool'⟩

/-- **The environment overrides five settings and no other**, whatever the settings were before.
Doing so again changes nothing; and where the environment gives an interpreter, a runtime and a
tool, every configuration can be run. -/
theorem withEnvironment_contract (c : HarnessConfig) (env : Environment) :
    Overridden env c (c.withEnvironment env)
      ∧ (c.withEnvironment env).withEnvironment env = c.withEnvironment env
      ∧ ((∀ name ∈ [overrides.interpreter, overrides.runtime, overrides.tool],
            ∃ value, env.Gives name value) →
          Runnable (c.withEnvironment env)) := by
  have hoverridden := overridden_withEnvironment c env
  refine ⟨hoverridden, withEnvironment_withEnvironment c env, fun hgives => ?_⟩
  simp only [List.forall_mem_cons] at hgives
  obtain ⟨⟨interpreter, hinterpreter⟩, ⟨runtime, hruntime⟩, ⟨command, hcommand⟩, -⟩ := hgives
  exact runnable_of_gives hoverridden hinterpreter hruntime hcommand

/-! A command that is cut at blanks of several kinds, and a value that is blank. -/

def oddBlanks : Environment := .ofList
  [(overrides.interpreter, " node"), (overrides.runtime, "/lib"), (overrides.remote, " \u3000"),
    (overrides.tool, "\u00A0java\u2003-jar \t a.jar\n")]

theorem withEnvironment_contract_oddBlanks :
    Runnable ((standard "/tmp").withEnvironment oddBlanks)
      ∧ ((standard "/tmp").withEnvironment oddBlanks).toolCommand = ["java", "-jar", "a.jar"]
      ∧ ((standard "/tmp").withEnvironment oddBlanks).browser = .standard := by
  obtain ⟨-, -, hrunnable⟩ := withEnvironment_contract (standard "/tmp") oddBlanks
  refine ⟨hrunnable ?_, by decide +kernel, by decide +kernel⟩
  simp only [List.forall_mem_cons]
  refine ⟨⟨" node", rfl, 'n', by decide, by decide⟩, ⟨"/lib", rfl, 'l', by decide, by decide⟩,
    ⟨_, rfl, 'j', by decide, by decide⟩, fun name hmem => absurd hmem List.not_mem_nil⟩

end HarnessConfig

end GrammarBench
