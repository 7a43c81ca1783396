import GrammarBench.Child.Basic
import GrammarBench.Config.Basic
import GrammarBench.Harness

/-!
# Drivers under an interpreter

The interpreter runs the driver with the input file as its argument. It works in the staging area
and looks for modules in the shared runtime first and then in the staging area, so that a driver
finds both the runtime and what was generated for its grammar.
-/

namespace GrammarBench

/-- The variable that tells the interpreter where modules are. -/
def modulePathVariable : String := "NODE_PATH"

def pathSeparator : Char := ':'

/-- Joins directories to a module path; a directory that holds the separator cannot be joined. -/
def joinPaths (dirs : List Path) : Except Failure String :=
  if dirs.any (·.toList.contains pathSeparator) then
    .error (.invalidConfig ("cannot build " ++ modulePathVariable ++
      ": path segment contains separator `:`"))
  else .ok (":".intercalate dirs)

/-- The interpreter for drivers, and where its runtime library is. -/
structure Interpreter where
  program : Path
  runtime : Path
deriving Repr, DecidableEq

namespace Interpreter

def ofConfig (config : HarnessConfig) : Except Failure Interpreter := do
  let program ← config.interpreter
  let runtime ← config.runtime
  return { program, runtime }

/-- Where modules are looked for: in the runtime, then in the staging area. -/
def modulePath (i : Interpreter) (area : StagingArea) : Except Failure String :=
  joinPaths [i.runtime, area.path]

def command (i : Interpreter) (area : StagingArea) (entry : Path) : Except Failure Command := do
  let modulePath ← i.modulePath area
  return {
    program := i.program
    arguments := [entry, area.inputPath]
    environment := [(modulePathVariable, modulePath)]
    directory := some area.path }

/-- Starts the interpreter on a driver; that it cannot be started is logged. -/
def start (i : Interpreter) (launch : Launcher) (command : Command) : HostAction ChildRun := do
  match ← launch command with
  | .ok run => return run
  | .error fault =>
    Host.logError ("can't exec recognizer: " ++ fault.message)
    throw (.spawn i.program fault)

/-- Runs a driver on an input. How the driver ends does not matter, only what it wrote. -/
def execute (i : Interpreter) (launch : Launcher) (area : StagingArea) (entry : Path)
    (input : String) : HostAction ExecutionResult := do
  let _ ← area.stageInput input
  let command ← i.command area entry
  let run ← i.start launch command
  let child ← run.attach true true
  let (_, result) ← child.wait
  return result

def backend (i : Interpreter) (launch : Launcher) : Backend where
  kind := .process
  execute := i.execute launch

end Interpreter

end GrammarBench
