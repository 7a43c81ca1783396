import GrammarBench.Proofs.CommandLine.ExitCode
import GrammarBench.Proofs.Driver.Names
import GrammarBench.Proofs.Harness.Contract

/-!
# Drivers that are shown

One command shows a driver without running anything, two others run one. They come to the names in
it by different ways: a command that runs a parser puts endings behind the name of the grammar, and
the command that shows its driver is told the name of the parser, takes the usual ending off and
puts other ones there. Both ways lead to the same driver (`RenderTask.Shows.spec_eq`), so what is
shown is what would be run, and where there is no driver both commands say the same of it
(`shown_contract`).
-/

namespace GrammarBench

/-! ## Names -/

/-- The last dot of a file name is that of its extension, whatever dots stand before it. -/
theorem Path.stemOf_append {stem : String} (hne : stem ≠ "") : stemOf (stem ++ ".g4") = stem := by
  have hbefore : (((stem ++ ".g4").toList.reverse.dropWhile (· != '.')).drop 1)
      = stem.toList.reverse := by
    simp [List.dropWhile]
  unfold stemOf
  simp only [hbefore]
  simp [hne]

namespace CommandLine

theorem companionStart_append (start : String) : companionStart (start ++ "Parser") = start := by
  unfold companionStart
  simp

theorem GrammarFile.read_eq_ok {tree : FileTree} {cwd : Location} {path : Path} {g : GrammarFile}
    (h : GrammarFile.read tree cwd path = .ok g) :
    path.fileName? = some g.fileName ∧ g.name = Path.stemOf g.fileName := by
  obtain ⟨text, -, h⟩ := bind_eq_ok.mp h
  split at h
  · rename_i fileName hname
    cases h
    exact ⟨hname, rfl⟩
  · cases h

/-- The one command shows the driver that the other one runs, if both get the same backend. -/
inductive RenderTask.Shows : RenderTask → Task → Prop
  /-- The names of a parser and its lexer are those that follow from the name of the grammar. -/
  | parse {t : ParseTask} {stem : String} (hstem : stem ≠ "")
      (hfile : t.grammar.fileName? = some (stem ++ ".g4"))
      (hlexer : t.lexer = none) (hparser : t.parser = none) :
      Shows
        { lexer := stem ++ "Lexer", parser := some (stem ++ "Parser"), listener := t.listener,
          visitor := t.visitor, startRule := some t.startRule, debug := t.debug, showDfa := false }
        (.parse t)
  | lex {t : LexTask} {lexer : String} (hlexer : t.lexer = some lexer) :
      Shows
        { lexer, parser := none, listener := none, visitor := none, startRule := none,
          debug := false, showDfa := t.showDfa }
        (.lex t)

theorem ParseTask.spec_of_case {t : ParseTask} {tree : FileTree} {cwd : Location} {c : ParserCase}
    (h : t.case tree cwd = .ok c) : ∃ fileName, t.grammar.fileName? = some fileName
      ∧ c.spec = (DriverSpec.parser (t.parser.getD (Path.stemOf fileName ++ "Parser"))
        (t.lexer.getD (Path.stemOf fileName ++ "Lexer"))
        (t.listener.getD (Path.stemOf fileName ++ "Listener"))
        (t.visitor.getD (Path.stemOf fileName ++ "Visitor")) t.startRule).withDebug t.debug := by
  obtain ⟨grammar, hgrammar, h⟩ := bind_eq_ok.mp h
  obtain ⟨input, -, h⟩ := bind_eq_ok.mp h
  cases h
  obtain ⟨hname, hstem⟩ := GrammarFile.read_eq_ok hgrammar
  refine ⟨grammar.fileName, hname, ?_⟩
  rw [← hstem]
  rfl

theorem LexTask.spec_of_case {t : LexTask} {tree : FileTree} {cwd : Location} {c : LexerCase}
    (h : t.case tree cwd = .ok c) : ∃ fileName, t.grammar.fileName? = some fileName
      ∧ c.spec
        = (DriverSpec.lexer (t.lexer.getD (Path.stemOf fileName))).withShowDfa t.showDfa := by
  obtain ⟨grammar, hgrammar, h⟩ := bind_eq_ok.mp h
  obtain ⟨input, -, h⟩ := bind_eq_ok.mp h
  cases h
  obtain ⟨hname, hstem⟩ := GrammarFile.read_eq_ok hgrammar
  refine ⟨grammar.fileName, hname, ?_⟩
  rw [← hstem]
  rfl

/-- **Both ways lead to the same names.** -/
theorem RenderTask.Shows.spec_eq {r : RenderTask} {task : Task} {s : Host} {c : Case}
    (h : r.Shows task) (hcase : task.case? s = some (.ok c)) : c.spec = r.spec := by
  cases h with
  | @parse t stem hstem hfile hlexer hparser =>
      obtain ⟨parserCase, hread, rfl⟩ := map_eq_ok (Option.some.inj hcase)
      obtain ⟨fileName, hname, hspec⟩ := ParseTask.spec_of_case hread
      obtain rfl := Option.some.inj (hfile.symm.trans hname)
      rw [hlexer, hparser, Path.stemOf_append hstem] at hspec
      rw [Case.spec, hspec, RenderTask.spec]
      simp only [companionStart_append]
      rfl
  | @lex t lexer hlexer =>
      obtain ⟨lexerCase, hread, rfl⟩ := map_eq_ok (Option.some.inj hcase)
      obtain ⟨fileName, -, hspec⟩ := LexTask.spec_of_case hread
      rw [hlexer] at hspec
      exact hspec

variable {i i' : Invocation} {r : RenderTask} {env : Environment} {outside : Outside}
  {colours : Bool} {s : Host}

theorem runOn_runTask_of_render (hrender : i.task = .render r) :
    (runTask i env outside colours).runOn s =
      match Driver.render r.spec i.backend with
      | .ok text => (.ok (.passed, .generated i.format text), s)
      | .error f => (.error (.failure f), s) := by
  unfold runTask
  rw [runOn_bind, runOn_get]
  dsimp only
  rw [hrender]
  dsimp only
  rw [runOn_bind, runOn_liftM_except]
  cases Driver.render r.spec i.backend <;> rfl

theorem kind_of_ofConfig {config : HarnessConfig} {kind : BackendKind} {h : Harness}
    (hconfig : Harness.ofConfig outside config kind = .ok h) : h.backend.kind = kind := by
  obtain ⟨tool, -, hconfig⟩ := bind_eq_ok.mp hconfig
  obtain ⟨backend, hbackend, hconfig⟩ := bind_eq_ok.mp hconfig
  cases hconfig
  cases kind with
  | process =>
      obtain ⟨interpreter, -, hmade⟩ := bind_eq_ok.mp hbackend
      cases hmade
      rfl
  | browser =>
      obtain ⟨browser, -, hmade⟩ := bind_eq_ok.mp hbackend
      cases hmade
      rfl

/-! ## What is shown and what is run -/

/-- The command passes and prints the text and nothing else, whatever there is around it. -/
def Invocation.Prints (i : Invocation) (text : String) : Prop :=
  ∀ env outside colours s,
    (runTask i env outside colours).runOn s = (.ok (.passed, .out text), s)

def Invocation.FailsWith (i : Invocation) (f : Failure) : Prop :=
  ∀ env outside colours s, (runTask i env outside colours).runOn s = (.error (.failure f), s)

/-- The command has come to the point where it makes its driver: the grammar of its case compiled,
and the input is staged. -/
structure Invocation.MakesDriver (i : Invocation) (env : Environment) (outside : Outside) (s : Host)
    (h : Harness) (c : Case) (area : StagingArea) (s₁ : Host) : Prop where
  harness : ∃ config, loadConfig env s.tree s.cwd i.config = .ok config
    ∧ Harness.ofConfig outside config i.backend = .ok h
  case : i.task.case? s = some (.ok c)
  staged : ∃ options atTool queue, h.Staged c s area options atTool queue s₁

variable {h : Harness} {c : Case} {area : StagingArea} {s₁ : Host}

theorem Invocation.MakesDriver.not_rendered (hmakes : i.MakesDriver env outside s h c area s₁)
    {f : Failure} (hrender : Driver.render c.spec h.backend.kind = .error f) (colours : Bool) :
    ∃ s', (runTask i env outside colours).runOn s = (.error (.failure f), s') := by
  obtain ⟨⟨config, hconfig, hharness⟩, hcase, options, atTool, queue, hstaged⟩ := hmakes
  have hrun := (Harness.CaseRun.notRendered (b := Bench.fresh s) hstaged hrender).runOn_eq
  rw [runOn_runTask hcase, hconfig]
  dsimp only
  rw [runOn_runCase, hharness]
  dsimp only
  rw [hrun]
  exact ⟨_, rfl⟩

theorem prints_of_render (hrender : i.task = .render r) (hformat : i.format = .text) {text : String}
    (htext : Driver.render r.spec i.backend = .ok text) : i.Prints text := by
  intro env outside colours s
  rw [runOn_runTask_of_render hrender, htext, hformat]
  rfl

theorem failsWith_of_render (hrender : i.task = .render r) {f : Failure}
    (hf : Driver.render r.spec i.backend = .error f) : i.FailsWith f := by
  intro env outside colours s
  rw [runOn_runTask_of_render hrender, hf]

theorem render_of_prints (hrender : i.task = .render r) (hformat : i.format = .text) {text : String}
    (hprints : i.Prints text) (env : Environment) (outside : Outside) (s : Host) :
    Driver.render r.spec i.backend = .ok text := by
  have hrun := hprints env outside false s
  rw [runOn_runTask_of_render hrender, hformat] at hrun
  cases hdriver : Driver.render r.spec i.backend with
  | ok driver =>
      rw [hdriver] at hrun
      cases hrun
      rfl
  | error f =>
      rw [hdriver] at hrun
      cases hrun

/-- What the command `i` shows of the driver that the command `i'` makes. -/
structure ShownContract (i i' : Invocation) (env : Environment) (outside : Outside) (colours : Bool)
    (s : Host) (h : Harness) (c : Case) (area : StagingArea) (s₁ : Host) : Prop where
  /-- A driver is shown exactly when one can be made. -/
  shown_iff : (∃ text, i.Prints text) ↔
    ∃ driver, Driver.render c.spec h.backend.kind = .ok driver
  /-- What is shown is what the entry file has. -/
  entry : ∀ text entry s₂, i.Prints text →
    (area.writeDriver c.spec h.backend.kind).runOn s₁ = (.ok entry, s₂) →
    s₂.tree.read s₂.cwd entry = .ok (Text.utf8 text)
  /-- Otherwise both commands say the same. -/
  refused : (¬∃ text, i.Prints text) → ∃ message, i.FailsWith (.synthesis message)
    ∧ ∃ s', (runTask i' env outside colours).runOn s
      = (.error (.failure (.synthesis message)), s')

/-- **The driver that is shown is the one that is run.** -/
theorem shown_contract (hrender : i.task = .render r) (hformat : i.format = .text)
    (hbackend : i'.backend = i.backend) (hshows : r.Shows i'.task)
    (hmakes : i'.MakesDriver env outside s h c area s₁) (colours : Bool) :
    ShownContract i i' env outside colours s h c area s₁ := by
  obtain ⟨config, -, hharness⟩ := hmakes.harness
  have hkind : h.backend.kind = i.backend := (kind_of_ofConfig hharness).trans hbackend
  have hsame : Driver.render c.spec h.backend.kind = Driver.render r.spec i.backend := by
    rw [hshows.spec_eq hmakes.case, hkind]
  have hprints : ∀ text, i.Prints text ↔ Driver.render c.spec h.backend.kind = .ok text := by
    intro text
    rw [hsame]
    exact ⟨fun hprints => render_of_prints hrender hformat hprints env outside s,
      prints_of_render hrender hformat⟩
  refine ⟨exists_congr hprints, ?_, ?_⟩
  · intro text entry s₂ htext hwrite
    rw [StagingArea.runOn_writeDriver, (hprints text).mp htext] at hwrite
    exact (StagingArea.holds_of_writeFile hwrite).read
  · intro hnone
    cases hdriver : Driver.render r.spec i.backend with
    | ok text => exact absurd ⟨text, (hprints text).mpr (hsame.trans hdriver)⟩ hnone
    | error f =>
        obtain ⟨message, -, rfl⟩ := Driver.render_eq_error.mp hdriver
        exact ⟨message, failsWith_of_render hrender hdriver,
          hmakes.not_rendered (hsame.trans hdriver) colours⟩

/-! A grammar whose name is itself the usual ending, and a listener that is named. -/

namespace OddStem

def task : ParseTask where
  grammar := "Parser.g4"
  lexer := none
  parser := none
  listener := some "Walk"
  visitor := none
  startRule := "s"
  input := ⟨some "a", none⟩
  debug := true
  expect := none

def run : Invocation :=
  { SmallRun.invocation with task := .parse task }

def shownTask : RenderTask where
  lexer := "ParserLexer"
  parser := some "ParserParser"
  listener := some "Walk"
  visitor := none
  startRule := some "s"
  debug := true
  showDfa := false

def shown : Invocation :=
  { SmallRun.invocation with task := .render shownTask }

def host : Host :=
  { SmallRun.host with tree := ⟨[(["Parser.g4"], .file [])]⟩ }

def setup : Setup where
  config := .ofEnvironment SmallRun.environment
  case := .parser
    { grammarFileName := "Parser.g4", grammarText := "", parserName := "ParserParser",
      lexerName := "ParserLexer", listenerName := "Walk", visitorName := "ParserVisitor",
      startRuleName := "s", input := "a", debug := true }
  tool := ⟨"tool", []⟩
  interpreter := ⟨"node", "/lib"⟩

def harness : Harness :=
  setup.harness SmallRun.programs

end OddStem

theorem shown_contract_oddStem :
    ∃ area s₁, OddStem.run.MakesDriver SmallRun.environment SmallRun.programs OddStem.host
        OddStem.harness OddStem.setup.case area s₁
      ∧ ShownContract OddStem.shown OddStem.run SmallRun.environment SmallRun.programs false
        OddStem.host OddStem.harness OddStem.setup.case area s₁
      ∧ ∃ text, OddStem.shown.Prints text := by
  have hcalled : (Bench.fresh OddStem.host).driverCalls
      ((OddStem.harness.exec OddStem.setup.case).runOn (Bench.fresh OddStem.host)).2 ≠ [] := by
    decide +kernel
  obtain ⟨area, options, atTool, queue, driver, _, _, ⟨hdriver, s₁, hstaged, -⟩, -⟩ :=
    (OddStem.harness.exec_caseRun OddStem.setup.case
      (Bench.fresh OddStem.host)).driverCalls_cases.resolve_left hcalled
  have hshows : OddStem.shownTask.Shows OddStem.run.task :=
    .parse (t := OddStem.task) (by decide : "Parser" ≠ "") (by decide) rfl rfl
  have hbackend : OddStem.run.backend = OddStem.shown.backend := rfl
  have hmakes : OddStem.run.MakesDriver SmallRun.environment SmallRun.programs OddStem.host
      OddStem.harness OddStem.setup.case area s₁ :=
    { harness := ⟨_, rfl, ofConfig_process.mpr
        ⟨OddStem.setup.tool, OddStem.setup.interpreter, by decide +kernel, by decide +kernel, rfl⟩⟩
      case := by decide +kernel
      staged := ⟨options, atTool, queue, hstaged⟩ }
  have hcontract := shown_contract rfl rfl hbackend hshows hmakes false
  exact ⟨area, s₁, hmakes, hcontract, hcontract.shown_iff.mpr ⟨driver, hdriver⟩⟩

end CommandLine

end GrammarBench
