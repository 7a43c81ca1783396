import GrammarBench.Host

/-!
# The bench

The host together with what the bench remembers of its own doings: which programs it asked for and
what the files were when it did, and the error output of the last driver. A tool or a driver
changes the host, but never this record.
-/

namespace GrammarBench

/-- A call of a program that the bench does not contain, with the files as they were when it was
made. -/
inductive Call where
  | tool (options : List String) (files : FileTree)
  | driver (entry : Path) (input : String) (files : FileTree)
deriving Repr, DecidableEq

/-- A host and the record of what the bench did on it. -/
structure Bench where
  host : Host
  calls : List Call
  /-- The error output of the driver that ran last, if it wrote any. -/
  stderrDuringParse : Option String
deriving Repr

abbrev BenchAction (α : Type) := ExceptT Failure (StateM Bench) α

namespace Bench

def fresh (host : Host) : Bench :=
  ⟨host, [], none⟩

/-- An action on the host as an action of the bench: nothing else changes. -/
def onHost {α : Type} (action : HostAction α) : BenchAction α := fun b =>
  let (result, host) := action.run.run b.host
  (result, { b with host })

instance : MonadLift HostAction BenchAction where
  monadLift := onHost

/-- How an action ends, as a value: it ends with a failure without ending what follows it. -/
def outcomeOf {α : Type} (action : BenchAction α) : BenchAction (Except Failure α) :=
  ExceptT.lift action.run

def recordTool (options : List String) : BenchAction Unit :=
  modifyThe Bench fun b => { b with calls := b.calls ++ [.tool options b.host.tree] }

def recordDriver (entry : Path) (input : String) : BenchAction Unit :=
  modifyThe Bench fun b => { b with calls := b.calls ++ [.driver entry input b.host.tree] }

end Bench

end GrammarBench
