import GrammarBench.Json.Document
import GrammarBench.Report

/-!
# What a user sees

The text of commands on the two channels of a terminal. The output channel carries only what a
recognizer printed, a driver, or one JSON text; all else goes to the error channel, in colour if
the terminal has colours.
-/

namespace GrammarBench

structure Screen where
  stdout : String
  stderr : String
deriving Repr, DecidableEq

namespace Screen

def blank : Screen :=
  ⟨"", ""⟩

def andThen (a b : Screen) : Screen :=
  ⟨a.stdout ++ b.stdout, a.stderr ++ b.stderr⟩

instance : Append Screen := ⟨andThen⟩

def out (text : String) : Screen :=
  ⟨text, ""⟩

def err (text : String) : Screen :=
  ⟨"", text⟩

def errLine (text : String) : Screen :=
  err (text ++ "\n")

end Screen

/-- The ways in which a text can stand out, as terminals number them. -/
inductive Style where
  | red
  | yellow
  | dimmed
  | bold
  | boldRed
  | boldYellow
deriving Repr, DecidableEq

namespace Style

def code : Style → List Char
  | red => "\x1b[31m".toList
  | yellow => "\x1b[33m".toList
  | dimmed => "\x1b[2m".toList
  | bold => "\x1b[1m".toList
  | boldRed => "\x1b[1;31m".toList
  | boldYellow => "\x1b[1;33m".toList

def off : List Char :=
  "\x1b[0m".toList

/-- A text with the style turned on again wherever the text turns it off. -/
def renew (style : Style) : List Char → List Char
  | '\x1b' :: '[' :: '0' :: 'm' :: rest => off ++ style.code ++ style.renew rest
  | c :: rest => c :: style.renew rest
  | [] => []

def apply (colours : Bool) (style : Style) (text : String) : String :=
  if colours then String.ofList (style.code ++ style.renew text.toList ++ off) else text

end Style

/-- The format in which commands show their results. -/
inductive OutputFormat where
  /-- The recognizer's output as it is, and all else on the error channel. -/
  | text
  | json
deriving Repr, DecidableEq

namespace OutputFormat

def ofName? (name : String) : Option OutputFormat :=
  if name == "text" then some text else if name == "json" then some json else none

end OutputFormat

namespace Screen

def error (colours : Bool) (message : String) : Screen :=
  errLine (Style.boldRed.apply colours "Error:" ++ " " ++ message)

def skipped (colours : Bool) (reason : String) : Screen :=
  errLine (Style.boldYellow.apply colours "Skipped:" ++ " " ++ reason)

def styleOf : Severity → Style
  | .error => .red
  | .warning => .yellow
  | .info => .dimmed

def diagnostic (colours : Bool) (d : Diagnostic) : Screen :=
  errLine ((styleOf d.severity).apply colours d.display)

def diagnostics (colours : Bool) (ds : List Diagnostic) : Screen :=
  ds.foldr (fun d shown => diagnostic colours d ++ shown) blank

def driverErrors (colours : Bool) (text : String) : Screen :=
  errLine (Style.boldYellow.apply colours "stderr during parse:") ++ err text

/-- Shows that the output is not the expected one. -/
def mismatch (colours : Bool) (expected actual : String) : Screen :=
  errLine (Style.boldRed.apply colours "output mismatch") ++
    errLine (Style.bold.apply colours "expected:") ++ errLine expected ++
    errLine (Style.bold.apply colours "actual:") ++ errLine actual

def driverRun (colours : Bool) (r : CaseReport) : Screen :=
  out (r.output.getD "") ++
    (match r.stderr with
      | some text => driverErrors colours text
      | none => blank) ++
    (if r.matched == some false then
      mismatch colours (r.expected.getD "") (r.output.getD "")
    else blank)

def report (format : OutputFormat) (colours : Bool) (r : CaseReport) : Screen :=
  match format with
  | .json => out (r.jsonText ++ "\n")
  | .text =>
    diagnostics colours r.diagnostics ++
      if r.compiled then driverRun colours r
      else error colours "grammar did not compile; recognizer not run"

def generated (format : OutputFormat) (text : String) : Screen :=
  match format with
  | .json => out ((Json.obj [("text", .str text)]).text ++ "\n")
  | .text => out text

end Screen

end GrammarBench
