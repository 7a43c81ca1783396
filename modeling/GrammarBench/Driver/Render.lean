import GrammarBench.Backend
import GrammarBench.Driver.Page
import GrammarBench.Driver.Script
import GrammarBench.Driver.Spec

/-!
# Drivers

The driver for a request: the skeleton is chosen by what is exercised and by the kind of backend,
and the names are put into it.
-/

namespace GrammarBench.Driver

/-- The file that the process backend runs. -/
def scriptFile : String := "Test.js"

/-- The file that the browser backend opens. -/
def pageFile : String := "Test.html"

/-- The directory, next to a page, that holds the grammar and what is generated from it. -/
def pageGrammarDir : String := "parser"

inductive Template where
  | lexerScript
  | lexerPage
  | parserScript
  | parserPage
deriving Repr, DecidableEq

namespace Template

def select (spec : DriverSpec) : BackendKind → Template
  | .process => if spec.isLexerOnly then lexerScript else parserScript
  | .browser => if spec.isLexerOnly then lexerPage else parserPage

def name : Template → String
  | lexerScript => "LexerScript"
  | lexerPage => "LexerPage"
  | parserScript => "ParserScript"
  | parserPage => "ParserPage"

def fileName : Template → String
  | lexerScript => scriptFile
  | parserScript => scriptFile
  | lexerPage => pageFile
  | parserPage => pageFile

def lines (debug showDfa : Bool) : Template → List Line
  | lexerScript => Driver.lexerScript showDfa
  | lexerPage => Driver.lexerPage showDfa
  | parserScript => Driver.parserScript debug
  | parserPage => Driver.parserPage debug

end Template

def render (spec : DriverSpec) (backend : BackendKind) : Except Failure String :=
  match spec.recognizer with
  | .ok recognizer =>
    .ok (fill recognizer.names ((Template.select spec backend).lines spec.debug spec.showDfa))
  | .error fault => .error (.synthesis fault.message)

end GrammarBench.Driver
