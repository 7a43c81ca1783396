import GrammarBench.Execution
import GrammarBench.Failure
import GrammarBench.FileTree.Walk
import GrammarBench.Text.Blank
import GrammarBench.Web.Traffic

/-!
# The host

What the bench can see and change of the computer it runs on: its files, the ports that are in use,
what it did on the network, and the log. A run is an action on a host that ends with a value or
with a failure; what was done before a failure stays done.
-/

namespace GrammarBench

inductive LogLevel where
  | error
  | warn
  | info
deriving Repr, DecidableEq

def LogLevel.word : LogLevel → String
  | error => "ERROR"
  | warn => "WARN"
  | info => "INFO"

/-- An event of the log, with further fields as pairs of name and value. -/
structure LogEvent where
  level : LogLevel
  message : String
  fields : List (String × String)
deriving Repr, DecidableEq

/-- An event on one line: level, message and fields. -/
def LogEvent.display (e : LogEvent) : String :=
  e.level.word ++ " " ++ e.message ++
    String.join (e.fields.map fun (name, value) => " " ++ name ++ "=" ++ value)

inductive Channel where
  | stdout
  | stderr
deriving Repr, DecidableEq

/-- The part of a computer that the bench works with. -/
structure Host where
  system : String
  tree : FileTree
  cwd : Location
  /-- The number from which names for new directories are tried. -/
  serial : Nat
  ports : List Nat
  /-- Why a port that is not in use cannot be opened, if it cannot. -/
  bindFault : Option IoFault := none
  /-- How a page server ends when it is stopped. -/
  serverEnd : ServerEnd := .stopped
  /-- The channels of a child in the order in which they are found to have something to read, as far
  as that is not the order of the writes. -/
  ready : List Channel := []
  /-- What was done on the network, oldest first. -/
  traffic : List Traffic
  log : List LogEvent
deriving Repr

abbrev HostAction (α : Type) := ExceptT Failure (StateM Host) α

namespace Host

def record (level : LogLevel) (message : String) (fields : List (String × String)) :
    HostAction Unit :=
  modify fun h => { h with log := h.log ++ [⟨level, message, fields⟩] }

def logError (message : String) : HostAction Unit :=
  record .error message []

/-- Logs something that may explain a bad result. -/
def logWarn (message : String) : HostAction Unit :=
  record .warn message []

def logInfo (message : String) : HostAction Unit :=
  record .info message []

/-- How an action ends, as a value: it ends with a failure without ending what follows it. -/
def outcomeOf {α : Type} (action : HostAction α) : HostAction (Except Failure α) :=
  ExceptT.lift action.run

def makeDirs (p : Path) : HostAction Unit := do
  let h ← get
  let (result, tree) := h.tree.makeDirs h.cwd p
  set { h with tree }
  match result with
  | .ok () => return ()
  | .error fault => throw (.io fault)

/-- Writes a text to a file, in place of the content that it had. -/
def writeText (p : Path) (text : String) : HostAction Unit := do
  let h ← get
  match h.tree.write h.cwd p (Text.utf8 text) with
  | .ok tree => set { h with tree }
  | .error fault => throw (.io fault)

/-- The result with the given contents of the two channels; error output is logged, since it often
explains a bad result. -/
def resultOfChannels (stdout stderr : String) : HostAction ExecutionResult := do
  if !stderr.isEmpty then logWarn ("exec stderr: " ++ Text.trimEnd stderr)
  return .ofChannels stdout stderr

end Host

end GrammarBench
