import GrammarBench.Json.Members

/-!
# Diagnostics

What a grammar tool reports: messages with a severity, an error code and a place in a grammar,
collected in the order in which they arrive. The bench looks at nothing but the severity.
-/

namespace GrammarBench

inductive Severity where
  | error
  | warning
  | info
deriving Repr, DecidableEq

namespace Severity

def name : Severity → String
  | error => "error"
  | warning => "warning"
  | info => "info"

def ofName? (s : String) : Option Severity :=
  if s = "error" then some error
  else if s = "warning" then some warning
  else if s = "info" then some info
  else none

def toJson (s : Severity) : Json :=
  .str s.name

def ofJson? (j : Json) : Option Severity :=
  j.word?.bind ofName?

end Severity

/-- Numbers in a message are below this bound; a larger one is not kept. -/
def numberBound : Nat := Nat.pow 2 32

structure Diagnostic where
  severity : Severity
  code : Option Nat
  file : Option String
  line : Option Nat
  column : Option Nat
  message : String
deriving Repr, DecidableEq

namespace Diagnostic

/-- A message without a code or a place. -/
def plain (severity : Severity) (message : String) : Diagnostic :=
  { severity, code := none, file := none, line := none, column := none, message }

def isError (d : Diagnostic) : Bool :=
  d.severity == .error

def isWarning (d : Diagnostic) : Bool :=
  d.severity == .warning

/-- The code as it is written after the label. -/
def codeText (d : Diagnostic) : String :=
  match d.code with
  | some code => "(" ++ toString code ++ ")"
  | none => ""

/-- The place as it is written before the message: a place is written only when the file, the line
and the column are all known. -/
def placeText (d : Diagnostic) : String :=
  match d.file, d.line, d.column with
  | some file, some line, some column =>
    file ++ ":" ++ toString line ++ ":" ++ toString column ++ ": "
  | _, _, _ => ""

/-- The line that shows a message. An information is its text alone. -/
def display (d : Diagnostic) : String :=
  match d.severity with
  | .info => d.message
  | s => s.name ++ d.codeText ++ ": " ++ d.placeText ++ d.message

def fieldNames : List String :=
  ["severity", "code", "file", "line", "column", "message"]

def toJson (d : Diagnostic) : Json :=
  .obj [("severity", d.severity.toJson), ("code", .ofNat? d.code), ("file", .ofText? d.file),
    ("line", .ofNat? d.line), ("column", .ofNat? d.column), ("message", .str d.message)]

def ofJson? (j : Json) : Option Diagnostic := do
  let ms ← j.members? fieldNames
  let severity ← ms.required "severity" Severity.ofJson?
  let code ← ms.optional "code" (Json.orNull (Json.natBelow? numberBound))
  let file ← ms.optional "file" (Json.orNull Json.text?)
  let line ← ms.optional "line" (Json.orNull (Json.natBelow? numberBound))
  let column ← ms.optional "column" (Json.orNull (Json.natBelow? numberBound))
  let message ← ms.required "message" Json.text?
  return { severity, code, file, line, column, message }

end Diagnostic

/-- The messages of one run of the tool, in the order of their arrival. -/
structure DiagnosticQueue where
  all : List Diagnostic
deriving Repr, DecidableEq

namespace DiagnosticQueue

def empty : DiagnosticQueue :=
  ⟨[]⟩

def push (q : DiagnosticQueue) (d : Diagnostic) : DiagnosticQueue :=
  ⟨q.all ++ [d]⟩

def append (q : DiagnosticQueue) (ds : List Diagnostic) : DiagnosticQueue :=
  ⟨q.all ++ ds⟩

def errors (q : DiagnosticQueue) : List Diagnostic :=
  q.all.filter Diagnostic.isError

def warnings (q : DiagnosticQueue) : List Diagnostic :=
  q.all.filter Diagnostic.isWarning

def hasErrors (q : DiagnosticQueue) : Bool :=
  q.all.any Diagnostic.isError

def toJson (q : DiagnosticQueue) : Json :=
  .obj [("all", .arr (q.all.map Diagnostic.toJson))]

def ofJson? (j : Json) : Option DiagnosticQueue := do
  let ms ← j.members? ["all"]
  let all ← ms.required "all" (Json.listOf? Diagnostic.ofJson?)
  return ⟨all⟩

end DiagnosticQueue

end GrammarBench
