import GrammarBench.Compile
import GrammarBench.Config.Basic

/-!
# Running cases

A case names a grammar, a recognizer and an input. The grammar is compiled in a staging area of
the case; if the tool reports no error, a driver for the recognizer is written next to it and run
on the input by a backend. The area is given up at the end, whatever happened.
-/

namespace GrammarBench

structure LexerCase where
  grammarFileName : String
  grammarText : String
  lexerName : String
  input : String
  /-- The automaton of the lexer is printed after the tokens. -/
  showDfa : Bool
deriving Repr, DecidableEq

namespace LexerCase

def fieldNames : List String :=
  ["grammar_file_name", "grammar_text", "lexer_name", "input", "show_dfa"]

def toJson (c : LexerCase) : Json :=
  .obj [("grammar_file_name", .str c.grammarFileName), ("grammar_text", .str c.grammarText),
    ("lexer_name", .str c.lexerName), ("input", .str c.input), ("show_dfa", .bool c.showDfa)]

/-- Reads a case; the automaton need not be mentioned. -/
def ofJson? (j : Json) : Option LexerCase := do
  let ms ← j.members? fieldNames
  let grammarFileName ← ms.required "grammar_file_name" Json.text?
  let grammarText ← ms.required "grammar_text" Json.text?
  let lexerName ← ms.required "lexer_name" Json.text?
  let input ← ms.required "input" Json.text?
  let showDfa ← ms.withDefault "show_dfa" Json.bool? false
  return { grammarFileName, grammarText, lexerName, input, showDfa }

def spec (c : LexerCase) : DriverSpec :=
  (DriverSpec.lexer c.lexerName).withShowDfa c.showDfa

end LexerCase

/-- A case for a parser, which also checks the shape of the tree. -/
structure ParserCase where
  grammarFileName : String
  grammarText : String
  parserName : String
  lexerName : String
  listenerName : String
  visitorName : String
  startRuleName : String
  input : String
  debug : Bool
deriving Repr, DecidableEq

namespace ParserCase

def fieldNames : List String :=
  ["grammar_file_name", "grammar_text", "parser_name", "lexer_name", "listener_name",
    "visitor_name", "start_rule_name", "input", "debug"]

def toJson (c : ParserCase) : Json :=
  .obj [("grammar_file_name", .str c.grammarFileName), ("grammar_text", .str c.grammarText),
    ("parser_name", .str c.parserName), ("lexer_name", .str c.lexerName),
    ("listener_name", .str c.listenerName), ("visitor_name", .str c.visitorName),
    ("start_rule_name", .str c.startRuleName), ("input", .str c.input), ("debug", .bool c.debug)]

/-- Reads a case; whether ambiguities are reported need not be mentioned. -/
def ofJson? (j : Json) : Option ParserCase := do
  let ms ← j.members? fieldNames
  let grammarFileName ← ms.required "grammar_file_name" Json.text?
  let grammarText ← ms.required "grammar_text" Json.text?
  let parserName ← ms.required "parser_name" Json.text?
  let lexerName ← ms.required "lexer_name" Json.text?
  let listenerName ← ms.required "listener_name" Json.text?
  let visitorName ← ms.required "visitor_name" Json.text?
  let startRuleName ← ms.required "start_rule_name" Json.text?
  let input ← ms.required "input" Json.text?
  let debug ← ms.withDefault "debug" Json.bool? false
  return ⟨grammarFileName, grammarText, parserName, lexerName, listenerName, visitorName,
    startRuleName, input, debug⟩

def spec (c : ParserCase) : DriverSpec :=
  (DriverSpec.parser c.parserName c.lexerName c.listenerName c.visitorName
    c.startRuleName).withDebug c.debug

end ParserCase

/-- What runs drivers of one kind. It fails only when the driver could not be run; what the driver
itself complains of is part of the result. -/
structure Backend where
  kind : BackendKind
  execute : StagingArea → Path → String → HostAction ExecutionResult

/-- A grammar tool and a backend that work together, and where their runs take place. -/
structure Harness where
  config : HarnessConfig
  tool : GrammarTool
  backend : Backend

namespace Harness

/-- Compiles a grammar in a staging area with options of the caller. -/
def generate (h : Harness) (area : StagingArea) (grammarFileName grammarText : String)
    (options : List String) : BenchAction DiagnosticQueue := do
  let outDir ← area.outputDir h.backend.kind
  ((CompileRequest.new grammarFileName grammarText).withOptions options).compile h.tool outDir

def logFailure (f : Failure) : HostAction Unit :=
  if f.isSkip then Host.logInfo ("Skipping: " ++ f.message)
  else Host.logError ("can't exec recognizer: " ++ f.message)

/-- Runs a driver that has been written, and logs why if it could not be run. -/
def execute (h : Harness) (area : StagingArea) (entry : Path) (input : String) :
    HostAction ExecutionResult :=
  tryCatch (h.backend.execute area entry input) fun f => do
    logFailure f
    throw f

/-- Writes the driver for `spec` and its input into a staging area and runs it. The error output
that is remembered is that of this driver from here on, and none if it has no result. -/
def runDriver (h : Harness) (area : StagingArea) (spec : DriverSpec) (input : String) :
    BenchAction ExecutionResult := do
  modifyThe Bench fun b => { b with stderrDuringParse := none }
  let _ ← area.stageInput input
  let entry ← area.writeDriver spec h.backend.kind
  Bench.recordDriver entry input
  let result ← h.execute area entry input
  modifyThe Bench fun b => { b with stderrDuringParse := result.stderr }
  return result

/-- Works in a new staging area, which is given up at the end, whatever happened. -/
def withArea {α : Type} (h : Harness) (work : StagingArea → BenchAction α) : BenchAction α := do
  let area ← StagingArea.create h.config.stagingRoot h.config.keepStaging
  let outcome ← Bench.outcomeOf (work area)
  area.close
  MonadExcept.ofExcept outcome

/-- Runs a case in a staging area: compiles the grammar and, if it compiled, runs the driver. The
text tells in the log what was not run. -/
def runCase (h : Harness) (area : StagingArea) (grammarFileName grammarText : String)
    (option : String) (spec : DriverSpec) (input : String) (notRun : String) :
    BenchAction RunOutcome := do
  let diagnostics ← h.generate area grammarFileName grammarText [option]
  if diagnostics.hasErrors then
    Host.logWarn (grammarFileName ++ " did not compile; " ++ notRun)
    return { diagnostics, result := none }
  let result ← h.runDriver area spec input
  return { diagnostics, result := some result }

/-- Compiles a lexer and has it print the tokens of the input. -/
def execLexer (h : Harness) (c : LexerCase) : BenchAction RunOutcome :=
  h.withArea fun area =>
    h.runCase area c.grammarFileName c.grammarText noListenerOption c.spec c.input
      "lexer driver not run"

/-- Compiles a combined grammar and has its parser read the input. -/
def execParser (h : Harness) (c : ParserCase) : BenchAction RunOutcome :=
  h.withArea fun area =>
    h.runCase area c.grammarFileName c.grammarText visitorOption c.spec c.input
      "parser driver not run"

end Harness

end GrammarBench
