import GrammarBench.Child.Interpreter
import GrammarBench.Child.Tool
import GrammarBench.CommandLine.Abort
import GrammarBench.CommandLine.Arguments
import GrammarBench.Config.Environment
import GrammarBench.Config.File
import GrammarBench.Remote.Browser
import GrammarBench.Report
import GrammarBench.Screen

/-!
# Running commands

What the commands of the program do. The status with which the program ends tells how a command
ended: zero for a clean run, one for a run that is not clean, two for a run that came to nothing,
and three for one that this host cannot do.
-/

namespace GrammarBench

/-- What the bench reaches outside itself: programs, and the endpoint that controls a browser. -/
structure Outside where
  launch : Launcher
  endpoint : Endpoint

def Backend.ofConfig (outside : Outside) (kind : BackendKind) (config : HarnessConfig) :
    Except Failure Backend :=
  match kind with
  | .process => do return (← Interpreter.ofConfig config).backend outside.launch
  | .browser => do return (← Browser.ofConfig config).backend outside.endpoint

/-- The configured tool together with the backend of a kind. -/
def Harness.ofConfig (outside : Outside) (config : HarnessConfig) (kind : BackendKind) :
    Except Failure Harness := do
  let tool ← CommandTool.ofConfig config
  let backend ← Backend.ofConfig outside kind config
  return { config, tool := tool.grammarTool outside.launch, backend }

namespace CommandLine

abbrev CommandAction (α : Type) := ExceptT Abort (StateM Host) α

def InputChoice.read (c : InputChoice) (tree : FileTree) (cwd : Location) : Except Abort String :=
  match c.text, c.file with
  | some text, _ => .ok text
  | none, some path => readText tree cwd path "Failed to read input file"
  | none, none => .error (.told "no input given")

def LexTask.case (t : LexTask) (tree : FileTree) (cwd : Location) : Except Abort LexerCase := do
  let grammar ← GrammarFile.read tree cwd t.grammar
  let input ← t.input.read tree cwd
  return {
    grammarFileName := grammar.fileName
    grammarText := grammar.text
    lexerName := t.lexer.getD grammar.name
    input
    showDfa := t.showDfa }

/-- The case that the command for parsers runs; names that are not given follow from that of the
grammar. -/
def ParseTask.case (t : ParseTask) (tree : FileTree) (cwd : Location) :
    Except Abort ParserCase := do
  let grammar ← GrammarFile.read tree cwd t.grammar
  let input ← t.input.read tree cwd
  return {
    grammarFileName := grammar.fileName
    grammarText := grammar.text
    parserName := t.parser.getD (grammar.name ++ "Parser")
    lexerName := t.lexer.getD (grammar.name ++ "Lexer")
    listenerName := t.listener.getD (grammar.name ++ "Listener")
    visitorName := t.visitor.getD (grammar.name ++ "Visitor")
    startRuleName := t.startRule
    input
    debug := t.debug }

/-- The name of a parser without its usual ending: what the names of its companions begin with. -/
def companionStart (parser : String) : String :=
  let cs := parser.toList
  let ending := "Parser".toList
  if ending.isSuffixOf cs then String.ofList (cs.take (cs.length - ending.length)) else parser

def RenderTask.spec (t : RenderTask) : DriverSpec :=
  match t.parser, t.startRule with
  | some parser, some startRule =>
    let start := companionStart parser
    (DriverSpec.parser parser t.lexer (t.listener.getD (start ++ "Listener"))
      (t.visitor.getD (start ++ "Visitor")) startRule).withDebug t.debug
  | _, _ => (DriverSpec.lexer t.lexer).withShowDfa t.showDfa

/-- The settings of a run: those of the file, if one is named, and those of the environment. -/
def loadConfig (env : Environment) (tree : FileTree) (cwd : Location) (path : Option Path) :
    Except Abort HarnessConfig :=
  match path with
  | none => .ok (.ofEnvironment env)
  | some path =>
    if !tree.exists? cwd path then .error (.told ("Config file not found: " ++ path))
    else
      let loaded := match tree.readText cwd path with
        | .ok text => HarnessConfig.ofText env.tempDir text
        | .error fault => .error (.io fault)
      match loaded with
      | .ok config => .ok (config.withEnvironment env)
      | .error failure => .error (.during ("Failed to load " ++ path) failure)

/-- What comes of an action that may fail, as what comes of a command. -/
def orAbort {α : Type} (result : Except Failure α) : Except Abort α :=
  result.mapError .failure

def onBench {α : Type} (action : BenchAction α) : CommandAction α := fun h =>
  let (result, bench) := action.run.run (Bench.fresh h)
  (orAbort result, bench.host)

def runCase (i : Invocation) (outside : Outside) (config : HarnessConfig)
    (execute : Harness → BenchAction RunOutcome) (expect : Option String) :
    CommandAction CaseReport := do
  let harness ← orAbort (Harness.ofConfig outside config i.backend)
  let outcome ← onBench (execute harness)
  return .ofOutcome i.backend outcome expect

/-- Runs a command: its status and what it shows. -/
def runTask (i : Invocation) (env : Environment) (outside : Outside) (colours : Bool) :
    CommandAction (Status × Screen) := do
  let h ← get
  match i.task with
  | .lex task =>
    let config ← loadConfig env h.tree h.cwd i.config
    let case ← task.case h.tree h.cwd
    let report ← runCase i outside config (·.execLexer case) task.expect
    return (report.status, .report i.format colours report)
  | .parse task =>
    let config ← loadConfig env h.tree h.cwd i.config
    let case ← task.case h.tree h.cwd
    let report ← runCase i outside config (·.execParser case) task.expect
    return (report.status, .report i.format colours report)
  | .render task =>
    let text ← orAbort (Driver.render task.spec i.backend)
    return (.passed, .generated i.format text)

/-- How the program ends: its exit status, and what it has shown. -/
structure Ended where
  code : Nat
  screen : Screen
deriving Repr, DecidableEq

/-- What the program writes on its two channels: the log goes to the error channel, before what the
command has shown there. -/
def Ended.written (e : Ended) (log : List LogEvent) : Screen :=
  log.foldr (fun event rest => .errLine event.display ++ rest) e.screen

def exitCode : Except Abort Status → Nat
  | .ok .passed => 0
  | .ok .failed => 1
  | .error abort => if abort.skipReason?.isSome then 3 else 2

/-- The end of the program for what came of a command. -/
def ended (colours : Bool) (result : Except Abort (Status × Screen)) : Ended where
  code := exitCode (result.map (·.1))
  screen := match result with
    | .ok (_, screen) => screen
    | .error abort =>
      match abort.skipReason? with
      | some reason => .skipped colours reason
      | none => .error colours abort.message

def usage : String :=
  "Usage: gramtest [--config FILE] [--backend process|browser] [--format text|json] [-v]\n" ++
  "                COMMAND\n\n" ++
  "  lex     --grammar FILE (--input TEXT | --input-file FILE) [--lexer NAME]\n" ++
  "          [--show-dfa] [--expect TEXT]\n" ++
  "  parse   --grammar FILE --start-rule RULE (--input TEXT | --input-file FILE)\n" ++
  "          [--lexer NAME] [--parser NAME] [--listener NAME] [--visitor NAME] [--debug]\n" ++
  "          [--expect TEXT]\n" ++
  "  render  --lexer NAME [--show-dfa]\n" ++
  "          [--parser NAME --start-rule RULE [--listener NAME] [--visitor NAME] [--debug]]\n"

def version : String := "0.1.0"

/-- The end of the program when there is no command to be run. -/
def stopped (stop : Stop) (command : Option String) : Ended :=
  match stop with
  | .refused => ⟨2, .err usage⟩
  | .help => ⟨0, .out usage⟩
  | .version => ⟨0, .out (versionName command ++ " " ++ version ++ "\n")⟩

def run (env : Environment) (outside : Outside) (colours : Bool) (args : List String) :
    StateM Host Ended := do
  match read args with
  | .error (stop, command) => return stopped stop command
  | .ok invocation =>
    let result ← (runTask invocation env outside colours).run
    return ended colours result

end CommandLine

end GrammarBench
