import GrammarBench.Failure
import GrammarBench.Json.Members
import GrammarBench.Path

/-!
# Configuration

What the bench has to know about its host: where staging areas are made, which interpreter runs
drivers, where the shared runtime lies, how the grammar tool is called, and how a browser is
reached. A setting that is needed and missing is a failure that makes the run skipped.
-/

namespace GrammarBench

/-- The variables of the environment that override settings. -/
structure Variables where
  interpreter : String
  runtime : String
  tool : String
  remote : String
  stagingRoot : String

/-- The names of the variables: a value that one of them has takes the place of the setting. -/
def overrides : Variables where
  interpreter := "GRAMTEST_NODEJS"
  runtime := "GRAMTEST_RUNTIME"
  tool := "GRAMTEST_TOOL"
  remote := "GRAMTEST_WEBDRIVER"
  stagingRoot := "GRAMTEST_STAGING_ROOT"

/-- How the browser backend reaches its browser. -/
structure BrowserConfig where
  port : Nat
  remoteUrl : String
  browserName : String
  /-- The operating system that the backend is restricted to. -/
  requiredOs : Option String
deriving Repr, DecidableEq

namespace BrowserConfig

/-- The settings of a host that says nothing. -/
def standard : BrowserConfig where
  port := 8080
  remoteUrl := "http://127.0.0.1:4444"
  browserName := "safari"
  requiredOs := some "macos"

def fieldNames : List String :=
  ["port", "webdriver_url", "browser_name", "required_os"]

def toJson (c : BrowserConfig) : Json :=
  .obj [("port", .num (.ofNat c.port)), ("webdriver_url", .str c.remoteUrl),
    ("browser_name", .str c.browserName), ("required_os", .ofText? c.requiredOs)]

/-- Reads settings; whatever is missing is as the standard says. -/
def ofJson? (j : Json) : Option BrowserConfig := do
  let ms ← j.members? fieldNames
  let port ← ms.withDefault "port" (Json.natBelow? (Nat.pow 2 16)) standard.port
  let remoteUrl ← ms.withDefault "webdriver_url" Json.text? standard.remoteUrl
  let browserName ← ms.withDefault "browser_name" Json.text? standard.browserName
  let requiredOs ← ms.withDefault "required_os" (Json.orNull Json.text?) standard.requiredOs
  return { port, remoteUrl, browserName, requiredOs }

end BrowserConfig

structure HarnessConfig where
  stagingRoot : Path
  interpreterPath : Option Path
  runtimePath : Option Path
  toolCommand : List String
  keepStaging : Bool
  browser : BrowserConfig
deriving Repr, DecidableEq

namespace HarnessConfig

/-- The settings of a host whose directory for temporary files is given and that says nothing
else. -/
def standard (tempDir : Path) : HarnessConfig where
  stagingRoot := tempDir
  interpreterPath := none
  runtimePath := none
  toolCommand := []
  keepStaging := false
  browser := .standard

def fieldNames : List String :=
  ["staging_root", "interpreter_path", "runtime_path", "tool_command", "keep_staging", "browser"]

def toJson (c : HarnessConfig) : Json :=
  .obj [("staging_root", .str c.stagingRoot), ("interpreter_path", .ofText? c.interpreterPath),
    ("runtime_path", .ofText? c.runtimePath), ("tool_command", .ofTexts c.toolCommand),
    ("keep_staging", .bool c.keepStaging), ("browser", c.browser.toJson)]

/-- Reads settings; whatever is missing is as the standard says. -/
def ofJson? (tempDir : Path) (j : Json) : Option HarnessConfig := do
  let d := standard tempDir
  let ms ← j.members? fieldNames
  let stagingRoot ← ms.withDefault "staging_root" Json.text? d.stagingRoot
  let interpreterPath ← ms.withDefault "interpreter_path" (Json.orNull Json.text?) d.interpreterPath
  let runtimePath ← ms.withDefault "runtime_path" (Json.orNull Json.text?) d.runtimePath
  let toolCommand ← ms.withDefault "tool_command" (Json.listOf? Json.text?) d.toolCommand
  let keepStaging ← ms.withDefault "keep_staging" Json.bool? d.keepStaging
  let browser ← ms.withDefault "browser" BrowserConfig.ofJson? d.browser
  return { stagingRoot, interpreterPath, runtimePath, toolCommand, keepStaging, browser }

/-- A path that is given and not empty. -/
def given? (path : Option Path) : Option Path :=
  path.filter (!·.isEmpty)

/-- The interpreter, which has to be given. -/
def interpreter (c : HarnessConfig) : Except Failure Path :=
  match given? c.interpreterPath with
  | some path => .ok path
  | none => .error (.missingProperty overrides.interpreter)

/-- The directory of the runtime, which has to be given. -/
def runtime (c : HarnessConfig) : Except Failure Path :=
  match given? c.runtimePath with
  | some path => .ok path
  | none => .error (.missingProperty overrides.runtime)

/-- The program of the grammar tool and its leading arguments, which have to be given. -/
def tool (c : HarnessConfig) : Except Failure (String × List String) :=
  match c.toolCommand with
  | program :: args => .ok (program, args)
  | [] => .error (.missingProperty overrides.tool)

end HarnessConfig

end GrammarBench
