import GrammarBench.Bench
import GrammarBench.Json.Members
import GrammarBench.Staging

/-!
# Compiling a grammar

The grammar is written to the output directory, and the grammar tool is run on it with options in
a fixed order. What the tool reports is a result: problems of the grammar come back in the queue,
and only a fault of the host or of the tool itself ends the run.
-/

namespace GrammarBench

/-- The option that selects the language of the generated recognizer. -/
def targetOption : String := "-Dlanguage=JavaScript"

def visitorOption : String := "-visitor"

def noListenerOption : String := "-no-listener"

structure CompileRequest where
  grammarFileName : String
  grammarText : String
  /-- Options of the caller, which come first. -/
  extraOptions : List String
  /-- Every message is logged as the tool gives it, in place of the report of the bench. -/
  defaultListener : Bool
deriving Repr, DecidableEq

namespace CompileRequest

def new (grammarFileName grammarText : String) : CompileRequest where
  grammarFileName
  grammarText
  extraOptions := []
  defaultListener := false

/-- The request with one more option, after those that it has. -/
def withOption (r : CompileRequest) (option : String) : CompileRequest :=
  { r with extraOptions := r.extraOptions ++ [option] }

/-- The request with further options after those that it has. -/
def withOptions (r : CompileRequest) (options : List String) : CompileRequest :=
  { r with extraOptions := r.extraOptions ++ options }

/-- The request with the tool's way of logging chosen or not. -/
def withDefaultListener (r : CompileRequest) (defaultListener : Bool) : CompileRequest :=
  { r with defaultListener }

def fieldNames : List String :=
  ["grammar_file_name", "grammar_text", "extra_options", "default_listener"]

def toJson (r : CompileRequest) : Json :=
  .obj [("grammar_file_name", .str r.grammarFileName), ("grammar_text", .str r.grammarText),
    ("extra_options", .ofTexts r.extraOptions), ("default_listener", .bool r.defaultListener)]

/-- Reads a request; the options and the way of logging may be left out. -/
def ofJson? (j : Json) : Option CompileRequest := do
  let ms ← j.members? fieldNames
  let grammarFileName ← ms.required "grammar_file_name" Json.text?
  let grammarText ← ms.required "grammar_text" Json.text?
  let extraOptions ← ms.withDefault "extra_options" (Json.listOf? Json.text?) []
  let defaultListener ← ms.withDefault "default_listener" Json.bool? false
  return { grammarFileName, grammarText, extraOptions, defaultListener }

/-- The options for the tool: those of the caller, the target language, the directory for what is
generated, the directory of libraries, and the grammar. -/
def toolOptions (r : CompileRequest) (outDir : Path) : List String :=
  r.extraOptions ++
    [targetOption, "-o", outDir, "-lib", outDir, Path.join outDir r.grammarFileName]

end CompileRequest

/-- A grammar tool: given its options and the messages so far, it ends with more messages, and
with a failure if it could not be run to its end. -/
structure GrammarTool where
  process : List String → DiagnosticQueue → StateM Host (DiagnosticQueue × Option Failure)

namespace Diagnostic

/-- The level at which a message of the tool is logged. -/
def logLevel (d : Diagnostic) : LogLevel :=
  match d.severity with
  | .error => .error
  | .warning => .warn
  | .info => .info

def logged (d : Diagnostic) : HostAction Unit :=
  Host.record d.logLevel d.display []

end Diagnostic

namespace CompileRequest

/-- Logs the errors with the grammar, and the warnings, each group under a line that names the
options. -/
def report (r : CompileRequest) (options : List String) (queue : DiagnosticQueue) :
    HostAction Unit := do
  if queue.hasErrors then
    Host.logError ("grammar tool reports errors from " ++ Text.quotedList options)
    queue.errors.forM Diagnostic.logged
    Host.logError ("!!!\ngrammar:\n" ++ r.grammarText ++ "\n###")
  if !queue.warnings.isEmpty then
    Host.logWarn ("grammar tool reports warnings from " ++ Text.quotedList options)
    queue.warnings.forM Diagnostic.logged

def logMessages (r : CompileRequest) (options : List String) (queue : DiagnosticQueue) :
    HostAction Unit :=
  if r.defaultListener then queue.all.forM Diagnostic.logged else r.report options queue

def runTool (tool : GrammarTool) (options : List String) : HostAction DiagnosticQueue := do
  match ← tool.process options .empty with
  | (queue, none) => return queue
  | (_, some failure) => throw failure

/-- Puts the grammar into the output directory, which is made if it is missing. -/
def writeGrammar (r : CompileRequest) (outDir : Path) : HostAction Unit := do
  Host.logInfo ("dir " ++ outDir)
  Host.makeDirs outDir
  Host.writeText (Path.join outDir r.grammarFileName) r.grammarText

/-- Writes the grammar into the output directory and runs the tool on it. -/
def compile (r : CompileRequest) (tool : GrammarTool) (outDir : Path) :
    BenchAction DiagnosticQueue := do
  r.writeGrammar outDir
  let options := r.toolOptions outDir
  Bench.recordTool options
  let queue ← runTool tool options
  r.logMessages options queue
  return queue

end CompileRequest

end GrammarBench
