import GrammarBench.Config.Basic
import GrammarBench.Text.Blank

/-!
# Settings from the environment

Variables of the environment override the settings of a file. A variable counts only when its
value is not blank.
-/

namespace GrammarBench

abbrev Environment := String → Option String

namespace Environment

/-- The environment that a list of variables and values gives. -/
def ofList (vars : List (String × String)) : Environment :=
  fun name => vars.lookup name

/-- The value of a variable, unless it is blank. -/
def given? (env : Environment) (name : String) : Option String :=
  (env name).filter (!Text.allBlank ·)

def tempDir (env : Environment) : Path :=
  (env "TMPDIR").getD "/tmp"

end Environment

namespace HarnessConfig

/-- The settings with those that the environment gives in place of the old ones. The command of the
tool is cut at its blanks; every other value is taken as it is. -/
def withEnvironment (c : HarnessConfig) (env : Environment) : HarnessConfig where
  stagingRoot := (env.given? overrides.stagingRoot).getD c.stagingRoot
  interpreterPath := env.given? overrides.interpreter <|> c.interpreterPath
  runtimePath := env.given? overrides.runtime <|> c.runtimePath
  toolCommand := ((env.given? overrides.tool).map Text.words).getD c.toolCommand
  keepStaging := c.keepStaging
  browser := { c.browser with
    remoteUrl := (env.given? overrides.remote).getD c.browser.remoteUrl }

/-- The standard settings with those that the environment gives. -/
def ofEnvironment (env : Environment) : HarnessConfig :=
  (standard env.tempDir).withEnvironment env

end HarnessConfig

end GrammarBench
