import GrammarBench.Diagnostic.Basic

/-!
# Results of a run

What a driver printed, and the outcome of a whole case: the messages of the grammar tool together
with the result of the driver, if it ran.
-/

namespace GrammarBench

/-- What a driver wrote. The error output is absent when nothing was written there. -/
structure ExecutionResult where
  stdout : String
  stderr : Option String
deriving Repr, DecidableEq

namespace ExecutionResult

/-- The result with the given contents of the two channels. -/
def ofChannels (stdout stderr : String) : ExecutionResult :=
  ⟨stdout, if stderr.isEmpty then none else some stderr⟩

def hasStderr (r : ExecutionResult) : Bool :=
  r.stderr.isSome

def toJson (r : ExecutionResult) : Json :=
  .obj [("stdout", .str r.stdout), ("stderr", .ofText? r.stderr)]

def ofJson? (j : Json) : Option ExecutionResult := do
  let ms ← j.members? ["stdout", "stderr"]
  let stdout ← ms.required "stdout" Json.text?
  let stderr ← ms.optional "stderr" (Json.orNull Json.text?)
  return { stdout, stderr }

end ExecutionResult

/-- The outcome of a case. There is no result when the grammar did not compile. -/
structure RunOutcome where
  diagnostics : DiagnosticQueue
  result : Option ExecutionResult
deriving Repr, DecidableEq

namespace RunOutcome

def compiled (o : RunOutcome) : Bool :=
  !o.diagnostics.hasErrors

def output (o : RunOutcome) : Option String :=
  o.result.map (·.stdout)

/-- The error output of the driver, if it ran and wrote any. -/
def stderr (o : RunOutcome) : Option String :=
  o.result.bind (·.stderr)

def toJson (o : RunOutcome) : Json :=
  .obj [("diagnostics", o.diagnostics.toJson),
    ("result", match o.result with | some r => r.toJson | none => .null)]

def ofJson? (j : Json) : Option RunOutcome := do
  let ms ← j.members? ["diagnostics", "result"]
  let diagnostics ← ms.required "diagnostics" DiagnosticQueue.ofJson?
  let result ← ms.optional "result" (Json.orNull ExecutionResult.ofJson?)
  return { diagnostics, result }

end RunOutcome

end GrammarBench
