import GrammarBench.Json.Members
import GrammarBench.Text.Lowercase

/-!
# Kinds of backend

Where a driver runs: in a headless interpreter, or as a page in a browser. The kind decides how
the driver is packaged and where the generated recognizer lies.
-/

namespace GrammarBench

/-- The environment that a driver is packaged for. -/
inductive BackendKind where
  | process
  | browser
deriving Repr, DecidableEq

namespace BackendKind

def name : BackendKind → String
  | process => "process"
  | browser => "browser"

def ofName? (s : String) : Option BackendKind :=
  if s = "process" then some process
  else if s = "browser" then some browser
  else none

/-- The kind that a user names, in either case and by either of two names; otherwise the complaint
about it, which shows the name in lower case. -/
def ofUserName (s : String) : Except String BackendKind :=
  let low := Text.lowercase s
  if low = "process" ∨ low = "node" then .ok process
  else if low = "browser" ∨ low = "safari" then .ok browser
  else .error ("unknown backend: " ++ low)

def toJson (k : BackendKind) : Json :=
  .str k.name

def ofJson? (j : Json) : Option BackendKind :=
  j.word?.bind ofName?

end BackendKind

end GrammarBench
