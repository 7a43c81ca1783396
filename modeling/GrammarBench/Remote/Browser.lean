import GrammarBench.Config.Basic
import GrammarBench.Harness
import GrammarBench.Remote.Session
import GrammarBench.Web.Server

/-!
# Drivers in a browser

The staging area is shown as a site, a remote-controlled browser loads the driver's page from it,
types the input, presses the button, and the two areas for output and errors are read back. The
session and the server are given up whatever happens in between, and a fault while giving them up
never replaces the result or the failure before it.
-/

namespace GrammarBench

/-- A browser for drivers: how it is reached, and where the runtime library is. -/
structure Browser where
  config : BrowserConfig
  runtime : Path
deriving Repr, DecidableEq

namespace Browser

def inputId : String := "input"

def submitId : String := "submit"

def outputId : String := "output"

def errorsId : String := "errors"

def ofConfig (config : HarnessConfig) : Except Failure Browser := do
  let runtime ← config.runtime
  return { config := config.browser, runtime }

/-- The browser may need another operating system than the one that the host has. -/
def checkPlatform (b : Browser) (system : String) : Except Failure Unit :=
  match b.config.requiredOs with
  | some required =>
    if required == system then .ok ()
    else
      .error (.unavailable
        ("browser backend requires " ++ required ++ " (running on " ++ system ++ ")"))
  | none => .ok ()

/-- The path of a page on the site of a staging area. -/
def pageOf (area : StagingArea) (entry : Path) : Path :=
  let page := (Path.within? area.path entry).getD entry
  String.ofList (page.toList.map fun c => if c = '\\' then '/' else c)

/-- Loads a page, types the input, presses the button and reads both areas. -/
def exchange (session : Session) (url input : String) : HostAction ExecutionResult := do
  session.navigate url
  let inputArea ← session.findElement inputId
  session.sendKeys inputArea input
  let submit ← session.findElement submitId
  session.click submit
  let errorsArea ← session.findElement errorsId
  let errors ← session.property errorsArea "value"
  let outputArea ← session.findElement outputId
  let output ← session.property outputArea "value"
  Host.resultOfChannels (output.getD "") (errors.getD "")

def drive (b : Browser) (endpoint : Endpoint) (url input : String) :
    HostAction ExecutionResult := do
  let session ← Session.create endpoint b.config.remoteUrl b.config.browserName
  let outcome ← Host.outcomeOf (exchange session url input)
  if let .error failure ← Host.outcomeOf session.close then
    Host.logWarn ("Failed to close WebDriver session " ++ session.id ++ ": " ++ failure.message)
  MonadExcept.ofExcept outcome

def execute (b : Browser) (endpoint : Endpoint) (area : StagingArea) (entry : Path)
    (input : String) : HostAction ExecutionResult := do
  let h ← get
  b.checkPlatform h.system
  let server ← PageServer.start b.config.port ⟨area.path, b.runtime⟩
  let outcome ← Host.outcomeOf (b.drive endpoint (server.urlFor (pageOf area entry)) input)
  if let .error failure := outcome then
    Host.logError ("can't exec recognizer: " ++ failure.message)
  if let .error failure ← Host.outcomeOf server.stop then
    Host.logWarn ("Failed to stop static server: " ++ failure.message)
  Host.record .info "browser run finished" [("state", "torn_down")]
  MonadExcept.ofExcept outcome

def backend (b : Browser) (endpoint : Endpoint) : Backend where
  kind := .browser
  execute := b.execute endpoint

end Browser

end GrammarBench
