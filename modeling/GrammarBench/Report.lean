import GrammarBench.Backend
import GrammarBench.Decimal.Binary64
import GrammarBench.Execution
import GrammarBench.Json.Printer

/-!
# Reports

What a user is told about a case that ran: whether it compiled, the messages of the tool, what the
driver wrote, and what was expected. A case has passed when it compiled, wrote nothing to the error
channel and gave what was expected, if anything was.
-/

namespace GrammarBench

structure CaseReport where
  backend : BackendKind
  compiled : Bool
  diagnostics : List Diagnostic
  /-- What the driver printed; absent when it did not run. -/
  output : Option String
  stderr : Option String
  /-- What the driver should have printed, if that was said. -/
  expected : Option String
deriving Repr, DecidableEq

/-- How a command ended that ran to its end. -/
inductive Status where
  | passed
  | failed
deriving Repr, DecidableEq

def Status.word : Status → String
  | passed => "Passed"
  | failed => "Failed"

namespace CaseReport

def ofOutcome (backend : BackendKind) (outcome : RunOutcome) (expected : Option String) :
    CaseReport where
  backend
  compiled := outcome.compiled
  diagnostics := outcome.diagnostics.all
  output := outcome.output
  stderr := outcome.stderr
  expected

/-- Whether the output is the expected one, if something was expected. -/
def matched (r : CaseReport) : Option Bool :=
  r.expected.map fun expected => r.output == some expected

/-- The case is clean: it compiled, wrote no errors, and gave what was expected. -/
def passed (r : CaseReport) : Bool :=
  r.compiled && r.stderr.isNone && r.matched != some false

def status (r : CaseReport) : Status :=
  if r.passed then .passed else .failed

/-- A report as an object; an expectation that was not given is left out. -/
def toJson (r : CaseReport) : Json :=
  .obj ([("backend", r.backend.toJson), ("compiled", .bool r.compiled),
    ("diagnostics", .arr (r.diagnostics.map Diagnostic.toJson)), ("output", .ofText? r.output),
    ("stderr", .ofText? r.stderr)] ++ r.expected.toList.map fun text => ("expected", .str text))

def jsonText (r : CaseReport) : String :=
  String.ofList (r.toJson.pretty Decimal.numeralText 0)

end CaseReport

end GrammarBench
